import SqlDialect.Text.Blank
import SqlDialect.Text.Word

/-! Phrases at the head of a text: words in any case and signs, with white space between them.
A phrase is recognised by what is left of the text after it. -/

set_option autoImplicit false

namespace SqlDialect

/-- A phrase of at least one character. -/
structure Phrase where
  after? : Text → Option Text
  shorter : ∀ {s r : Text}, after? s = some r → r.length < s.length

namespace Phrase

-- Equality of a letter in any case with a small ASCII letter. The long s is an `s`.
def agreesWith (small c : Char) : Bool :=
  c == small || c == small.toUpper || (small == 's' && c == '\u017f')

def word? : Text → Text → Option Text
  | [], s => some s
  | _ :: _, [] => none
  | small :: w, c :: s => if agreesWith small c then word? w s else none

def mark? (mark : Char) : Text → Option Text
  | [] => none
  | c :: s => if c = mark then some s else none

def blanks? : Text → Option Text
  | [] => none
  | c :: r => if isBlank c then some (Text.dropBlank r) else none

def wordEnds : Text → Bool
  | [] => true
  | c :: _ => !isWordChar c

theorem length_word?_le {w s r : Text} (h : word? w s = some r) : r.length ≤ s.length := by
  induction w generalizing s with
  | nil =>
    simp only [word?, Option.some.injEq] at h
    simp [h]
  | cons a w ih =>
    cases s with
    | nil => simp [word?] at h
    | cons c s =>
      simp only [word?] at h
      split at h
      · have := ih h
        simp only [List.length_cons]
        omega
      · cases h

theorem length_blanks?_lt {s r : Text} (h : blanks? s = some r) : r.length < s.length := by
  cases s with
  | nil => simp [blanks?] at h
  | cons c s =>
    simp only [blanks?] at h
    split at h
    · cases h
      have := Text.length_dropBlank_le s
      simp only [List.length_cons]
      omega
    · cases h

def find? (p : Phrase) : Text → Option (Text × Text)
  | [] => none
  | c :: s =>
    match p.after? (c :: s) with
    | some r => some ([], r)
    | none => (p.find? s).map fun (before, r) => (c :: before, r)

def occurs (p : Phrase) (s : Text) : Bool := (p.find? s).isSome

/-- A text without the occurrences of a phrase, found from left to right. -/
def erase (p : Phrase) (s : Text) : Text :=
  match s with
  | [] => []
  | c :: s =>
    match _h : p.after? (c :: s) with
    | some r => p.erase r
    | none => c :: p.erase s
termination_by s.length
decreasing_by
  · exact p.shorter _h
  · simp

end Phrase

end SqlDialect

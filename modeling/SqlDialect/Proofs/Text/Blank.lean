import Mathlib.Data.List.DropRight
import SqlDialect.Text.Blank

/-! Runs of characters of one kind, texts with separators between them, and white space at either
end of a text. -/

set_option autoImplicit false

namespace SqlDialect

section

variable {p : Char → Bool} {run r : Text}

theorem takeWhile_run (all : ∀ c ∈ run, p c = true) (stop : ∀ c ∈ r.head?, p c = false) :
    (run ++ r).takeWhile p = run := by
  rw [List.takeWhile_append_of_pos all]
  cases r with
  | nil => simp
  | cons c r => simp [stop c rfl]

theorem dropWhile_run (all : ∀ c ∈ run, p c = true) (stop : ∀ c ∈ r.head?, p c = false) :
    (run ++ r).dropWhile p = r := by
  rw [List.dropWhile_append_of_pos all]
  cases r with
  | nil => rfl
  | cons c r => simp [stop c rfl]

theorem stop_dropWhile (s : Text) : ∀ c ∈ (s.dropWhile p).head?, p c = false := by
  intro c first
  have := List.head?_dropWhile_not p s
  rw [Option.mem_def.1 first] at this
  exact this

end

/-! ## ASCII letters and digits -/

theorem toNat_of_isAlpha {c : Char} (letter : c.isAlpha = true) :
    65 ≤ c.toNat ∧ c.toNat ≤ 122 := by
  rcases Bool.or_eq_true_iff.1 letter with upper | lower
  · obtain ⟨low, high⟩ := of_decide_eq_true upper
    exact ⟨UInt32.le_iff_toNat_le.1 low,
      Nat.le_trans (UInt32.le_iff_toNat_le.1 high) (by decide)⟩
  · obtain ⟨low, high⟩ := Bool.and_eq_true_iff.1 lower
    exact ⟨Nat.le_trans (by decide) (UInt32.le_iff_toNat_le.1 (of_decide_eq_true low)),
      UInt32.le_iff_toNat_le.1 (of_decide_eq_true high)⟩

theorem toNat_of_isDigit {c : Char} (digit : c.isDigit = true) :
    48 ≤ c.toNat ∧ c.toNat ≤ 57 := by
  obtain ⟨low, high⟩ := Bool.and_eq_true_iff.1 digit
  exact ⟨UInt32.le_iff_toNat_le.1 (of_decide_eq_true low),
    UInt32.le_iff_toNat_le.1 (of_decide_eq_true high)⟩

theorem isAlpha_of_toLower {c : Char} (letter : c.toLower.isAlpha = true) : c.isAlpha = true := by
  unfold Char.toLower at letter
  split at letter
  · next upper =>
    have capital : c.isUpper = true := decide_eq_true upper
    exact Bool.or_eq_true_iff.2 (.inl capital)
  · exact letter

theorem isLower_toLower_of_isUpper {c : Char} (capital : c.isUpper = true) :
    c.toLower.isLower = true := by
  have range := of_decide_eq_true capital
  have low : 65 ≤ c.toNat := UInt32.le_iff_toNat_le.1 range.1
  have high : c.toNat ≤ 90 := UInt32.le_iff_toNat_le.1 range.2
  unfold Char.toLower
  rw [dif_pos range]
  refine Bool.and_eq_true_iff.2 ⟨decide_eq_true ?_, decide_eq_true ?_⟩ <;>
    simp [UInt32.le_iff_toNat_le] <;> omega

theorem toLower_of_not_isUpper {c : Char} (small : ¬c.isUpper = true) : c.toLower = c := by
  unfold Char.toLower
  rw [dif_neg fun range => small (decide_eq_true range)]

theorem toLower_eq_self_or_isAlpha (c : Char) :
    c.toLower = c ∨ c.isAlpha = true ∧ c.toLower.isAlpha = true := by
  by_cases capital : c.isUpper = true
  · exact .inr ⟨Bool.or_eq_true_iff.2 (.inl capital),
      Bool.or_eq_true_iff.2 (.inr (isLower_toLower_of_isUpper capital))⟩
  · exact .inl (toLower_of_not_isUpper capital)

theorem toLower_eq_iff {c d : Char} (sign : d.isAlpha = false) : c.toLower = d ↔ c = d := by
  rcases toLower_eq_self_or_isAlpha c with same | ⟨letter, small⟩
  · rw [same]
  · have other {e : Char} (letter : e.isAlpha = true) : e ≠ d := by
      rintro rfl
      rw [letter] at sign
      cases sign
    exact iff_of_false (other small) (other letter)

theorem toLower_toLower (c : Char) : c.toLower.toLower = c.toLower := by
  by_cases capital : c.isUpper = true
  · refine toLower_of_not_isUpper fun again => ?_
    have low : 97 ≤ c.toLower.toNat := UInt32.le_iff_toNat_le.1 <|
      of_decide_eq_true (Bool.and_eq_true_iff.1 (isLower_toLower_of_isUpper capital)).1
    have high : c.toLower.toNat ≤ 90 := UInt32.le_iff_toNat_le.1 (of_decide_eq_true again).2
    omega
  · rw [toLower_of_not_isUpper capital, toLower_of_not_isUpper capital]

/-! ## Separators -/

theorem mem_of_mem_intercalate {α : Type} {separator : List α} {parts : List (List α)} {c : α}
    (mem : c ∈ List.intercalate separator parts) : c ∈ separator ∨ ∃ part ∈ parts, c ∈ part := by
  induction parts with
  | nil => cases mem
  | cons part parts ih =>
    cases parts with
    | nil =>
      rw [List.intercalate_singleton] at mem
      exact .inr ⟨part, List.mem_singleton_self part, mem⟩
    | cons other parts =>
      rw [List.intercalate_cons_cons, List.mem_append, List.mem_append] at mem
      rcases mem with (here | between) | later
      · exact .inr ⟨part, List.mem_cons_self, here⟩
      · exact .inl between
      · exact (ih later).imp_right fun ⟨p, listed, inside⟩ =>
          ⟨p, List.mem_cons_of_mem _ listed, inside⟩

namespace Text

def Blank (w : Text) : Prop := ∀ c ∈ w, isBlank c = true

-- Decided along the text, not by all characters that there are.
instance (w : Text) : Decidable (Blank w) := List.decidableBAll (fun c => isBlank c = true) w

theorem blank_nil : Blank [] := fun _ mem => absurd mem List.not_mem_nil

theorem blank_takeBlank (s : Text) : Blank s.takeBlank := fun _ mem => List.mem_takeWhile_imp mem

theorem Blank.not_mem {w : Text} {c : Char} (blank : Blank w) (visible : isBlank c = false) :
    c ∉ w := by
  intro mem
  rw [blank c mem] at visible
  cases visible

theorem isBlank_eq_false_of_all {s : Text} {c : Char} (visible : s.all (!isBlank ·) = true)
    (mem : c ∈ s) : isBlank c = false := by
  simpa using List.all_eq_true.1 visible c mem

theorem dropBlank_eq_cons_iff {s r : Text} {c : Char} :
    s.dropBlank = c :: r ↔ isBlank c = false ∧ ∃ w, Blank w ∧ s = w ++ c :: r := by
  constructor
  · intro dropped
    have first := List.head?_dropWhile_not isBlank s
    rw [show s.dropWhile isBlank = c :: r from dropped] at first
    refine ⟨first, s.takeBlank, s.blank_takeBlank, ?_⟩
    rw [← dropped, takeBlank_append_dropBlank]
  · rintro ⟨visible, w, blank, rfl⟩
    unfold dropBlank
    rw [List.dropWhile_append_of_pos blank, List.dropWhile_cons_of_neg (by simp [visible])]

theorem dropBlank_eq_nil_iff {s : Text} : s.dropBlank = [] ↔ Blank s := List.dropWhile_eq_nil_iff

theorem dropBlank_blank_append {w : Text} (blank : Blank w) (s : Text) :
    dropBlank (w ++ s) = s.dropBlank := List.dropWhile_append_of_pos blank

theorem dropBlank_append_of_visible {s : Text} (visible : ¬Blank s) (t : Text) :
    dropBlank (s ++ t) = s.dropBlank ++ t := by
  unfold dropBlank
  rw [List.dropWhile_append, if_neg]
  rwa [List.isEmpty_iff, List.dropWhile_eq_nil_iff]

theorem exists_trimEnd_append (s : Text) : ∃ w, Blank w ∧ s = s.trimEnd ++ w :=
  ⟨s.rtakeWhile isBlank, fun _ mem => List.mem_rtakeWhile_imp mem,
    List.rdropWhile_append_rtakeWhile.symm⟩

theorem trimEnd_eq_nil_or_concat (s : Text) :
    s.trimEnd = [] ∨ ∃ lead c, s.trimEnd = lead ++ [c] ∧ isBlank c = false := by
  by_cases empty : s.trimEnd = []
  · exact Or.inl empty
  · right
    refine ⟨s.trimEnd.dropLast, s.trimEnd.getLast empty, ?_, ?_⟩
    · exact (List.dropLast_append_getLast empty).symm
    · exact Bool.eq_false_iff.2 (List.rdropWhile_last_not isBlank s empty)

theorem trimEnd_append_of_visible (lead : Text) {c : Char} (s : Text)
    (visible : isBlank c = false) : trimEnd (lead ++ c :: s) = lead ++ c :: s.trimEnd := by
  unfold trimEnd
  rw [List.reverse_append, List.reverse_cons, List.append_assoc, List.dropWhile_append]
  split
  next blank =>
    rw [List.isEmpty_iff.1 blank]
    simp [visible]
  next => simp

theorem trimEnd_append_blank {w : Text} (s : Text) (blank : Blank w) :
    trimEnd (s ++ w) = s.trimEnd := by
  unfold trimEnd
  rw [List.reverse_append, List.dropWhile_append_of_pos]
  exact fun c mem => blank c (List.mem_reverse.1 mem)

theorem trim_append_blank {w : Text} (s : Text) (blank : Blank w) : trim (s ++ w) = s.trim := by
  by_cases empty : Blank s
  · have both : Blank (s ++ w) := List.forall_mem_append.2 ⟨empty, blank⟩
    rw [trim, trim, dropBlank_eq_nil_iff.2 both, dropBlank_eq_nil_iff.2 empty]
  · rw [trim, dropBlank_append_of_visible empty, trimEnd_append_blank _ blank, trim]

theorem trim_surrounded {lead trail : Text} (before : Blank lead) (after : Blank trail) (s : Text) :
    trim (lead ++ s ++ trail) = s.trim := by
  rw [trim_append_blank _ after, trim, dropBlank_blank_append before, trim]

end Text

end SqlDialect

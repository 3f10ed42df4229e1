/-! Text as the list of its characters.

Readers recurse on the list and printers append to it, so the laws of both are
laws of lists. A string literal stands for the list of its characters.
-/

set_option autoImplicit false

namespace SqlDialect

abbrev Text := List Char

instance : Coe String Text := ⟨String.toList⟩

namespace Text

def fold (s : Text) : Text := s.map Char.toLower

def agrees (a b : Text) : Bool := a.fold == b.fold

theorem agrees_iff {a b : Text} : a.agrees b = true ↔ a.fold = b.fold := by
  simp [agrees]

theorem agrees_refl (a : Text) : a.agrees a = true := agrees_iff.2 rfl

theorem agrees_comm (a b : Text) : a.agrees b = b.agrees a := by
  simp only [agrees, Bool.beq_comm]

def cut? (needle : Text) : Text → Option (Text × Text)
  | [] => if needle.isPrefixOf [] then some ([], []) else none
  | c :: r =>
    if needle.isPrefixOf (c :: r) then some ([], c :: r)
    else (cut? needle r).map fun (before, found) => (c :: before, found)

theorem cut?_append {needle s before found : Text} (h : cut? needle s = some (before, found)) :
    before ++ found = s := by
  induction s generalizing before found with
  | nil =>
    simp only [cut?] at h
    split at h <;> simp_all
  | cons c r ih =>
    simp only [cut?] at h
    split at h
    · simp only [Option.some.injEq, Prod.mk.injEq] at h
      obtain ⟨rfl, rfl⟩ := h
      rfl
    · obtain ⟨⟨before', found'⟩, hr, he⟩ := Option.map_eq_some_iff.1 h
      simp only [Prod.mk.injEq] at he
      obtain ⟨rfl, rfl⟩ := he
      simp [ih hr]

theorem found_ne_nil {needle s before found : Text} (nonempty : needle ≠ [])
    (h : cut? needle s = some (before, found)) : found ≠ [] := by
  induction s generalizing before with
  | nil =>
    simp only [cut?] at h
    split at h
    · rename_i isPrefix
      exact absurd (List.prefix_nil.1 (List.isPrefixOf_iff_prefix.1 isPrefix)) nonempty
    · cases h
  | cons c r ih =>
    simp only [cut?] at h
    split at h
    · simp only [Option.some.injEq, Prod.mk.injEq] at h
      simp [← h.2]
    · obtain ⟨⟨before', found'⟩, hr, he⟩ := Option.map_eq_some_iff.1 h
      simp only [Prod.mk.injEq] at he
      obtain ⟨_, rfl⟩ := he
      exact ih hr

theorem length_found_le {needle s before found : Text}
    (h : cut? needle s = some (before, found)) : found.length ≤ s.length := by
  have := congrArg List.length (cut?_append h)
  simp only [List.length_append] at this
  omega

def contains (needle s : Text) : Bool := (cut? needle s).isSome

-- The parts of a text between the separators; there is always at least one.
def fields (separator : Char) : Text → List Text
  | [] => [[]]
  | c :: r =>
    if c = separator then [] :: fields separator r
    else match fields separator r with
      | [] => [[c]]
      | first :: rest => (c :: first) :: rest

def replaceChar (old : Char) (new : Text) (s : Text) : Text :=
  s.flatMap fun c => if c = old then new else [c]

def ofNat (n : Nat) : Text := Nat.toDigits 10 n

def ofInt (i : Int) : Text := if i < 0 then '-' :: ofNat i.natAbs else ofNat i.natAbs

def digitsValue (digits : Text) : Nat :=
  digits.foldl (fun n d => 10 * n + (d.toNat - '0'.toNat)) 0

def padLeft (fill : Char) (length : Nat) (s : Text) : Text :=
  List.replicate (length - s.length) fill ++ s

def integer? (s : Text) : Option Int :=
  let unsigned (digits : Text) : Option Int :=
    if digits ≠ [] ∧ digits.all Char.isDigit then some (digitsValue digits) else none
  match s with
  | '-' :: digits => (unsigned digits).map (- ·)
  | '+' :: digits => unsigned digits
  | digits => unsigned digits

def int64? (s : Text) : Option Int64 :=
  (integer? s).bind fun i =>
    if Int64.minValue.toInt ≤ i ∧ i ≤ Int64.maxValue.toInt then some (Int64.ofInt i) else none

def hexDigits : Text := "0123456789abcdef"

def hexDigit (n : Nat) : Char := hexDigits.getD n '0'

def hexDigitValue? (c : Char) : Option Nat :=
  if c.isDigit then some (c.toNat - '0'.toNat)
  else if 'a' ≤ c ∧ c ≤ 'f' then some (c.toNat - 'a'.toNat + 10)
  else if 'A' ≤ c ∧ c ≤ 'F' then some (c.toNat - 'A'.toNat + 10)
  else none

def bytesToHex (bytes : List UInt8) : Text :=
  bytes.flatMap fun b => [hexDigit (b.toNat / 16), hexDigit (b.toNat % 16)]

def bytesOfHex? : Text → Option (List UInt8)
  | [] => some []
  | [_] => none
  | high :: low :: r => do
    let h ← hexDigitValue? high
    let l ← hexDigitValue? low
    let rest ← bytesOfHex? r
    return UInt8.ofNat (16 * h + l) :: rest

end Text

end SqlDialect

import Mathlib.Data.List.Infix
import SqlDialect.Text.Utf8

/-! Places in a text.

A place is told by the characters or by the bytes before it. A text is cut at the first place at
which another stands, which is always one between two characters, and so is the end of what stands
there. A number of bytes alone may also lie within a character or behind the end; then it is no
place.
-/

set_option autoImplicit false

namespace SqlDialect.Text

variable {needle s t before found : Text} {i : Nat}

/-! ## Places by characters -/

/-- A text stands in another behind so many characters. -/
def StandsAt (needle s : Text) (i : Nat) : Prop := needle <+: s.drop i

instance (needle s : Text) (i : Nat) : Decidable (StandsAt needle s i) :=
  inferInstanceAs (Decidable (needle <+: s.drop i))

/-- The first place at which a text stands in another. -/
structure FirstAt (needle s : Text) (i : Nat) : Prop where
  stands : StandsAt needle s i
  none_before : ∀ j < i, ¬StandsAt needle s j

theorem standsAt_cons_succ {c : Char} : StandsAt needle (c :: s) (i + 1) ↔ StandsAt needle s i :=
  Iff.rfl

theorem standsAt_length_append : StandsAt needle (s ++ t) s.length ↔ needle <+: t := by
  rw [StandsAt, List.drop_left]

theorem standsAt_length_add_append :
    StandsAt needle (s ++ t) (s.length + i) ↔ StandsAt needle t i := by
  rw [StandsAt, List.drop_length_add_append, StandsAt]

theorem StandsAt.append (stands : StandsAt needle s i) (t : Text) :
    StandsAt needle (s ++ t) i := by
  unfold StandsAt
  rw [List.drop_append]
  exact stands.trans (List.prefix_append _ _)

theorem standsAt_append_iff (inside : i + needle.length ≤ s.length) :
    StandsAt needle (s ++ t) i ↔ StandsAt needle s i := by
  refine ⟨fun stands => ?_, fun stands => stands.append t⟩
  refine List.prefix_of_prefix_length_le stands ?_ (by rw [List.length_drop]; omega)
  rw [List.drop_append_of_le_length (Nat.le_of_add_right_le inside)]
  exact List.prefix_append _ _

theorem StandsAt.length_le (stands : StandsAt needle s i) (nonempty : needle ≠ []) :
    i + needle.length ≤ s.length := by
  have short := List.IsPrefix.length_le stands
  have positive := List.length_pos_iff.2 nonempty
  rw [List.length_drop] at short
  omega

theorem infix_iff_exists_standsAt : needle <:+: s ↔ ∃ i, StandsAt needle s i := by
  constructor
  · rintro ⟨before, after, rfl⟩
    refine ⟨before.length, ?_⟩
    rw [List.append_assoc, standsAt_length_append]
    exact List.prefix_append _ _
  · rintro ⟨i, stands⟩
    exact stands.isInfix.trans (List.drop_suffix i s).isInfix

theorem firstAt_zero_iff : FirstAt needle s 0 ↔ needle <+: s :=
  ⟨fun first => first.stands, fun stands => ⟨stands, nofun⟩⟩

theorem firstAt_cons_succ {c : Char} :
    FirstAt needle (c :: s) (i + 1) ↔ ¬needle <+: c :: s ∧ FirstAt needle s i := by
  constructor
  · intro ⟨stands, before⟩
    refine ⟨before 0 (Nat.succ_pos i), standsAt_cons_succ.1 stands, fun j less => ?_⟩
    exact before (j + 1) (Nat.succ_lt_succ less)
  · intro ⟨notHere, stands, before⟩
    refine ⟨standsAt_cons_succ.2 stands, fun j less => ?_⟩
    cases j with
    | zero => exact notHere
    | succ j => exact before j (Nat.lt_of_succ_lt_succ less)

theorem cut?_eq_some_iff :
    cut? needle s = some (before, found) ↔
      s = before ++ found ∧ FirstAt needle s before.length := by
  induction s generalizing before with
  | nil =>
    rw [cut?, Option.ite_none_right_eq_some, List.isPrefixOf_iff_prefix]
    constructor
    · rintro ⟨here, ⟨⟩⟩
      exact ⟨rfl, firstAt_zero_iff.2 here⟩
    · rintro ⟨whole, first⟩
      obtain ⟨rfl, rfl⟩ := List.append_eq_nil_iff.1 whole.symm
      exact ⟨firstAt_zero_iff.1 first, rfl⟩
  | cons c r ih =>
    rw [cut?]
    split
    next here =>
      rw [List.isPrefixOf_iff_prefix] at here
      constructor
      · rintro ⟨⟩
        exact ⟨rfl, firstAt_zero_iff.2 here⟩
      · rintro ⟨whole, first⟩
        cases before with
        | nil => rw [whole, List.nil_append]
        | cons d before => exact absurd here (firstAt_cons_succ.1 first).1
    next notHere =>
      rw [List.isPrefixOf_iff_prefix] at notHere
      constructor
      · intro cut
        obtain ⟨⟨before, found⟩, later, ⟨⟩⟩ := Option.map_eq_some_iff.1 cut
        obtain ⟨whole, first⟩ := ih.1 later
        exact ⟨by rw [whole, List.cons_append], firstAt_cons_succ.2 ⟨notHere, first⟩⟩
      · rintro ⟨whole, first⟩
        cases before with
        | nil => exact absurd (firstAt_zero_iff.1 first) notHere
        | cons d before =>
          obtain ⟨rfl, later⟩ := List.cons.inj whole
          rw [ih.2 ⟨later, (firstAt_cons_succ.1 first).2⟩, Option.map_some]

theorem cut?_eq_none_iff : cut? needle s = none ↔ ¬needle <:+: s := by
  induction s with
  | nil => simp [cut?, List.infix_nil]
  | cons c r ih =>
    rw [cut?, List.infix_cons_iff, not_or, ← ih]
    split
    next at? => simp [List.isPrefixOf_iff_prefix.1 at?]
    next notAt => simp [mt List.isPrefixOf_iff_prefix.2 notAt]

theorem cut?_eq_none_iff_forall : cut? needle s = none ↔ ∀ i, ¬StandsAt needle s i := by
  rw [cut?_eq_none_iff, infix_iff_exists_standsAt, not_exists]

theorem not_infix_of_cut? (nonempty : needle ≠ []) (cut : cut? needle s = some (before, found)) :
    ¬needle <:+: before := by
  intro inside
  obtain ⟨i, stands⟩ := infix_iff_exists_standsAt.1 inside
  obtain ⟨rfl, first⟩ := cut?_eq_some_iff.1 cut
  have short := stands.length_le nonempty
  have positive := List.length_pos_iff.2 nonempty
  exact first.none_before i (by omega) (stands.append found)

theorem cut?_append_right (cut : cut? needle s = some (before, found)) (t : Text) :
    cut? needle (s ++ t) = some (before, found ++ t) := by
  obtain ⟨rfl, first⟩ := cut?_eq_some_iff.1 cut
  have short : needle.length ≤ found.length :=
    (standsAt_length_append.1 first.stands).length_le
  have unchanged (j : Nat) (less : j < before.length) : ¬StandsAt needle (before ++ found ++ t) j := by
    have inside : j + needle.length ≤ (before ++ found).length := by
      rw [List.length_append]
      omega
    exact mt (standsAt_append_iff inside).1 (first.none_before j less)
  exact cut?_eq_some_iff.2 ⟨List.append_assoc _ _ _, first.stands.append t, unchanged⟩

/-! ## Places by bytes -/

/-- The number of bytes before the first place at which a text stands. -/
def find? (needle s : Text) : Option Nat :=
  (cut? needle s).map fun (before, _) => byteLength before

theorem find?_of_cut? (cut : cut? needle s = some (before, found)) :
    find? needle s = some (byteLength before) := by
  rw [find?, cut, Option.map_some]

theorem find?_eq_none_iff : find? needle s = none ↔ cut? needle s = none :=
  Option.map_eq_none_iff

/-- A text in two, the first so many bytes long, if a character ends there. -/
def splitAt? : Nat → Text → Option (Text × Text)
  | 0, s => some ([], s)
  | _ + 1, [] => none
  | n + 1, c :: r =>
    if c.utf8Size ≤ n + 1 then (splitAt? (n + 1 - c.utf8Size) r).map fun (a, b) => (c :: a, b)
    else none

def slice? (s : Text) (start stop : Nat) : Option Text := do
  let (upTo, _) ← splitAt? stop s
  let (_, part) ← splitAt? start upTo
  return part

theorem splitAt?_append (s t : Text) : splitAt? s.byteLength (s ++ t) = some (s, t) := by
  induction s with
  | nil => cases t <;> rfl
  | cons c s ih =>
    have size := byteLength_cons c s
    obtain ⟨n, positive⟩ := Nat.exists_eq_add_one.2 c.utf8Size_pos
    rw [positive, Nat.add_right_comm] at size
    have left : n + byteLength s + 1 - c.utf8Size = byteLength s := by omega
    rw [List.cons_append, size, splitAt?, if_pos (by omega), left, ih, Option.map_some]

theorem slice?_append (a b c : Text) :
    slice? (a ++ b ++ c) a.byteLength (a ++ b).byteLength = some b := by
  simp only [slice?, splitAt?_append, Option.bind_eq_bind, Option.bind_some, Option.pure_def]

end SqlDialect.Text

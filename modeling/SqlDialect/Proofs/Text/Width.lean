import Mathlib.Algebra.GroupWithZero.Nat
import SqlDialect.Text.Utf8
import SqlDialect.Text.Width

/-! The columns that a text takes on a terminal.

All that is asked of a measure is that a text takes no more columns than bytes, and that columns add
up where the signs between the cells of a table part a text. By blocks of characters this is so: the
characters of two columns have numbers of at least three bytes, and columns add up wherever a text
is cut, except between a carriage return and the line feed after it.
-/

set_option autoImplicit false

namespace SqlDialect

/-- What is known of a measure. The signs between cells take a column each. -/
structure Text.Measures (measure : Text → Nat) : Prop where
  le_byteLength (s : Text) : measure s ≤ s.byteLength
  separated (s t : Text) {separator : Text} : separator ≠ [] →
    (∀ c ∈ separator, c ∈ " |-+".toList) →
    measure (s ++ (separator ++ t)) = measure s + (separator.length + measure t)

namespace Text.Measures

variable {measure : Text → Nat} (measures : Measures measure)

include measures

theorem nil : measure [] = 0 := Nat.le_zero.1 (measures.le_byteLength [])

theorem of_separator {separator : Text} (signs : ∀ c ∈ separator, c ∈ " |-+".toList) :
    measure separator = separator.length := by
  by_cases empty : separator = []
  · rw [empty, measures.nil]
    rfl
  · have alone := measures.separated [] [] empty signs
    rwa [List.append_nil, List.nil_append, measures.nil, Nat.zero_add] at alone

theorem intercalate {separator : Text} (some : separator ≠ [])
    (signs : ∀ c ∈ separator, c ∈ " |-+".toList) (parts : List Text) :
    measure (List.intercalate separator parts) =
      (parts.map measure).sum + separator.length * (parts.length - 1) := by
  induction parts with
  | nil => exact measures.nil
  | cons first rest ih =>
    cases rest with
    | nil => simp [List.intercalate]
    | cons second rest =>
      rw [List.intercalate_cons_cons, List.append_assoc, measures.separated _ _ some signs, ih]
      simp only [List.map_cons, List.sum_cons, List.length_cons, Nat.add_sub_cancel, Nat.mul_succ]
      omega

end Text.Measures

/-! ## By blocks of characters -/

variable {c : Char} {s t : Text}

theorem takesTwoColumns_bytes (wide : takesTwoColumns c = true) : 3 ≤ c.utf8Size := by
  have number : 0x1100 ≤ c.toNat := by
    simp only [takesTwoColumns, Bool.or_eq_true, Bool.and_eq_true, decide_eq_true_eq] at wide
    omega
  have one : ¬c.utf8Size = 1 := by
    rw [Char.utf8Size_eq_one_iff, UInt32.le_iff_toNat_le]
    change ¬c.toNat ≤ 127
    omega
  have two : ¬c.utf8Size = 2 := by
    rw [Char.utf8Size_eq_two_iff, UInt32.le_iff_toNat_le]
    rintro ⟨-, most⟩
    change c.toNat ≤ 0x7FF at most
    omega
  have := c.utf8Size_pos
  omega

theorem charWidth_le_utf8Size (c : Char) : charWidth c ≤ c.utf8Size := by
  unfold charWidth
  split
  · exact Nat.zero_le _
  split
  · next wide => exact Nat.le_of_succ_le (takesTwoColumns_bytes wide)
  · exact c.utf8Size_pos

namespace Text

@[simp] theorem width_nil : width [] = 0 := rfl

theorem width_cons (h : c ≠ '\r') (s : Text) : width (c :: s) = charWidth c + width s := by
  rw [width]
  rintro r rfl -
  exact h rfl

theorem width_cons_of_head (h : s.head? ≠ some '\n') (c : Char) :
    width (c :: s) = charWidth c + width s := by
  rw [width]
  rintro r - rfl
  exact h rfl

theorem width_le_byteLength (s : Text) : s.width ≤ s.byteLength := by
  fun_induction width s with
  | case1 => exact Nat.zero_le _
  | case2 r ih =>
    simp only [byteLength_cons]
    omega
  | case3 c r _ ih =>
    have := charWidth_le_utf8Size c
    simp only [byteLength_cons]
    omega

/-- Columns add up where the second part begins with no line feed. -/
theorem width_append (s : Text) (h : t.head? ≠ some '\n') :
    (s ++ t).width = s.width + t.width := by
  fun_induction width s with
  | case1 => simp
  | case2 r ih => simpa only [List.cons_append, width] using ih
  | case3 c r apart ih =>
    have shown : width (c :: (r ++ t)) = charWidth c + width (r ++ t) := by
      cases r with
      | nil => exact width_cons_of_head h c
      | cons d r =>
        rw [width]
        intro r' cr lf
        obtain ⟨rfl, -⟩ := List.cons.inj lf
        exact apart r cr rfl
    rw [List.cons_append, shown, ih, Nat.add_assoc]

theorem width_append_of_signs {separator : Text} (signs : ∀ c ∈ separator, c ∈ " |-+".toList)
    (t : Text) : (separator ++ t).width = separator.length + t.width := by
  have one : ∀ c ∈ " |-+".toList, decide (charWidth c = 1 ∧ c ≠ '\r') = true :=
    List.all_eq_true.1 (by decide)
  induction separator with
  | nil => simp
  | cons c separator ih =>
    obtain ⟨here, signs⟩ := List.forall_mem_cons.1 signs
    obtain ⟨wide, apart⟩ := of_decide_eq_true (one c here)
    rw [List.cons_append, width_cons apart, wide, ih signs, List.length_cons]
    omega

theorem measures_width : Measures width where
  le_byteLength := width_le_byteLength
  separated s t separator some signs := by
    have head : (separator ++ t).head? ≠ Option.some '\n' := by
      obtain ⟨c, rest, rfl⟩ := List.exists_cons_of_ne_nil some
      rintro ⟨⟩
      exact absurd (signs '\n' List.mem_cons_self) (by decide)
    rw [width_append s head, width_append_of_signs signs]

end Text

end SqlDialect

import SqlDialect.Query.Placeholder

/-! Placeholders written as question marks, part by part of a text. -/

set_option autoImplicit false

namespace SqlDialect

theorem convertFrom_question (n m : Nat) (s : Text) :
    convertFrom .question n s = convertFrom .question m s := by
  fun_induction convertFrom .question n s generalizing m with
  | case1 => rfl
  | case2 n r ih => rw [convertFrom, ih (m + 1)]; rfl
  | case3 n r ih => rw [convertFrom, ih m]
  | case4 n c r noPlaceholder noSign ih => rw [convertFrom, ih m] <;> assumption

-- The two parts are converted apart unless a percent sign ends the first and the second goes on
-- with what a percent sign is read together with.
theorem convertFrom_append {s t : Text} (n : Nat)
    (apart : s.getLast? = some '%' → ∀ c ∈ t.head?, c ≠ 's' ∧ c ≠ '%') :
    convertFrom .question n (s ++ t) = convertFrom .question n s ++ convertFrom .question n t := by
  have last {c d : Char} {r : Text} (end? : r.getLast? = some d) : (c :: r).getLast? = some d := by
    rw [List.getLast?_cons, end?]
    rfl
  fun_induction convertFrom .question n s with
  | case1 => rfl
  | case2 n r ih =>
    rw [List.cons_append, List.cons_append, convertFrom, ih fun end? => apart (last (last end?)),
      convertFrom_question (n + 1) n t, List.append_assoc]
  | case3 n r ih =>
    rw [List.cons_append, List.cons_append, convertFrom, ih fun end? => apart (last (last end?)),
      List.cons_append]
  | case4 n c r noPlaceholder noSign ih =>
    rw [List.cons_append, convertFrom, ih fun end? => apart (last end?), List.cons_append]
    · rintro r' rfl same
      cases r with
      | nil =>
        rw [List.nil_append] at same
        subst same
        exact (apart rfl 's' rfl).1 rfl
      | cons d r =>
        obtain ⟨rfl, -⟩ := List.cons.inj same
        exact noPlaceholder r rfl rfl
    · rintro r' rfl same
      cases r with
      | nil =>
        rw [List.nil_append] at same
        subst same
        exact (apart rfl '%' rfl).2 rfl
      | cons d r =>
        obtain ⟨rfl, -⟩ := List.cons.inj same
        exact noSign r rfl rfl

theorem convertPlaceholders_of_not_mem {s : Text} (unsigned : '%' ∉ s) :
    convertPlaceholders s .question = s := by
  have same (n : Nat) : convertFrom .question n s = s := by
    induction s generalizing n with
    | nil => rfl
    | cons c s ih =>
      have other := List.ne_of_not_mem_cons unsigned
      rw [convertFrom, ih (List.not_mem_of_not_mem_cons unsigned)]
      · rintro r rfl
        exact absurd rfl other
      · rintro r rfl
        exact absurd rfl other
  exact same 1

end SqlDialect

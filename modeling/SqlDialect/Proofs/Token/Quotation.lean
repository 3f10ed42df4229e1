import SqlDialect.Token.Scan

/-! Text between quotation marks.

A single mark inside a literal is written twice. So a literal ends at the first mark that is not
half of a pair, and it has no end where all marks pair up.
-/

set_option autoImplicit false

namespace SqlDialect

/-- Text in which every single quotation mark is half of a pair, the pairs taken from the left. -/
inductive Paired : Text → Prop where
  | nil : Paired []
  | pair {s : Text} : Paired s → Paired ('\'' :: '\'' :: s)
  | char {c : Char} {s : Text} : c ≠ '\'' → Paired s → Paired (c :: s)

namespace Paired

variable {s t body rest : Text} {c : Char}

theorem of_not_mem (unmarked : '\'' ∉ s) : Paired s := by
  induction s with
  | nil => exact .nil
  | cons c s ih =>
    have other := List.ne_of_not_mem_cons unmarked
    exact .char other.symm (ih (List.not_mem_of_not_mem_cons unmarked))

theorem tail_pair (paired : Paired ('\'' :: '\'' :: s)) : Paired s := by
  cases paired with
  | pair paired => exact paired
  | char other => exact absurd rfl other

theorem tail_of_ne (paired : Paired (c :: s)) (other : c ≠ '\'') : Paired s := by
  cases paired with
  | pair => exact absurd rfl other
  | char _ paired => exact paired

theorem append (first : Paired s) (second : Paired t) : Paired (s ++ t) := by
  induction first with
  | nil => exact second
  | pair _ ih => exact ih.pair
  | char other _ ih => exact .char other ih

theorem not_cons (paired : Paired s) : ¬Paired ('\'' :: s) := by
  induction paired with
  | nil =>
    rintro (_ | _ | ⟨other, _⟩)
    exact other rfl
  | pair _ ih => exact fun longer => ih longer.tail_pair
  | char other _ _ =>
    rintro (_ | _ | ⟨mark, _⟩)
    · exact other rfl
    · exact mark rfl

theorem of_append_cons (paired : Paired (s ++ c :: t)) (other : c ≠ '\'') :
    Paired s ∧ Paired t := by
  generalize whole : s ++ c :: t = u at paired
  induction paired generalizing s with
  | nil => simp at whole
  | @pair u paired ih =>
    rcases s with _ | ⟨d, _ | ⟨e, s⟩⟩
    · exact absurd (List.cons.inj whole).1 other
    · obtain ⟨-, whole⟩ := List.cons.inj whole
      exact absurd (List.cons.inj whole).1 other
    · simp only [List.cons_append, List.cons.injEq] at whole
      obtain ⟨rfl, rfl, whole⟩ := whole
      obtain ⟨first, second⟩ := ih whole
      exact ⟨first.pair, second⟩
  | @char d u apart paired ih =>
    rcases s with _ | ⟨e, s⟩
    · obtain ⟨rfl, rfl⟩ := List.cons.inj whole
      exact ⟨.nil, paired⟩
    · simp only [List.cons_append, List.cons.injEq] at whole
      obtain ⟨rfl, whole⟩ := whole
      obtain ⟨first, second⟩ := ih whole
      exact ⟨.char apart first, second⟩

theorem of_append (paired : Paired (s ++ t)) (unmarked : '\'' ∉ s) : Paired t := by
  induction s with
  | nil => exact paired
  | cons c s ih =>
    have other := List.ne_of_not_mem_cons unmarked
    exact ih (paired.tail_of_ne other.symm) (List.not_mem_of_not_mem_cons unmarked)

theorem of_literal (inner : Paired body) (paired : Paired ('\'' :: body ++ '\'' :: rest)) :
    Paired ('\'' :: body ++ ['\'']) ∧ Paired rest := by
  induction inner with
  | nil => exact ⟨Paired.nil.pair, paired.tail_pair⟩
  | pair _ ih =>
    obtain ⟨literal, after⟩ := ih paired.tail_pair
    exact ⟨literal.pair, after⟩
  | char other _ _ =>
    rcases paired with _ | _ | ⟨mark, _⟩
    · exact absurd rfl other
    · exact absurd rfl mark

end Paired

/-! ## Literals and quoted names -/

theorem closeLiteral?_eq_none_iff {s : Text} : closeLiteral? s = none ↔ Paired s := by
  fun_induction closeLiteral? s with
  | case1 => exact ⟨fun _ => .nil, fun _ => rfl⟩
  | case2 r ih =>
    rw [Option.map_eq_none_iff, ih]
    exact ⟨.pair, Paired.tail_pair⟩
  | case3 r single =>
    refine ⟨fun closed => absurd closed (Option.some_ne_none _), ?_⟩
    rintro (_ | paired | ⟨mark, _⟩)
    · exact (single _ rfl rfl).elim
    · exact absurd rfl mark
  | case4 c r _ other ih =>
    rw [Option.map_eq_none_iff, ih]
    exact ⟨.char other, fun paired => paired.tail_of_ne other⟩

theorem closeLiteral?_append_mark {body rest : Text} (inner : Paired body)
    (single : rest.head? ≠ some '\'') :
    closeLiteral? (body ++ '\'' :: rest) = some (body ++ ['\''], rest) := by
  induction inner with
  | nil =>
    cases rest with
    | nil => rfl
    | cons c rest =>
      have other : c ≠ '\'' := fun same => single (congrArg some same)
      rw [List.nil_append, closeLiteral?, if_pos rfl]
      · rfl
      · rintro r - same
        exact other (List.cons.inj same).1
  | pair _ ih =>
    simp only [List.cons_append, closeLiteral?]
    rw [ih]
    rfl
  | @char c s other _ ih =>
    rw [List.cons_append, closeLiteral?, if_neg other, ih]
    · rfl
    · rintro r same
      exact absurd same other

theorem closeLiteral?_eq_some_iff {s body rest : Text} :
    closeLiteral? s = some (body, rest) ↔
      ∃ inner, Paired inner ∧ body = inner ++ ['\''] ∧ s = inner ++ '\'' :: rest ∧
        rest.head? ≠ some '\'' := by
  constructor
  · intro closed
    fun_induction closeLiteral? s generalizing body rest with
    | case1 => cases closed
    | case2 r ih =>
      obtain ⟨⟨b, t⟩, closes, same⟩ := Option.map_eq_some_iff.1 closed
      obtain ⟨rfl, rfl⟩ := Prod.mk.inj same
      obtain ⟨inner, paired, rfl, rfl, single⟩ := ih closes
      exact ⟨'\'' :: '\'' :: inner, paired.pair, rfl, rfl, single⟩
    | case3 r single =>
      obtain ⟨rfl, rfl⟩ := Prod.mk.inj (Option.some.inj closed)
      refine ⟨[], .nil, rfl, rfl, fun doubled => ?_⟩
      obtain ⟨r', rfl⟩ := List.head?_eq_some_iff.1 doubled
      exact single r' rfl rfl
    | case4 c r _ other ih =>
      obtain ⟨⟨b, t⟩, closes, same⟩ := Option.map_eq_some_iff.1 closed
      obtain ⟨rfl, rfl⟩ := Prod.mk.inj same
      obtain ⟨inner, paired, rfl, rfl, single⟩ := ih closes
      exact ⟨c :: inner, .char other paired, rfl, rfl, single⟩
  · rintro ⟨inner, paired, rfl, rfl, single⟩
    exact closeLiteral?_append_mark paired single

theorem endless_iff {s : Text} :
    (¬∃ body after, Paired body ∧ s = body ++ '\'' :: after ∧ after.head? ≠ some '\'') ↔
      Paired s := by
  rw [← closeLiteral?_eq_none_iff, Option.eq_none_iff_forall_ne_some]
  constructor
  · rintro endless ⟨_, after⟩ closes
    obtain ⟨body, paired, -, whole, single⟩ := closeLiteral?_eq_some_iff.1 closes
    exact endless ⟨body, after, paired, whole, single⟩
  · rintro open? ⟨body, after, paired, whole, single⟩
    exact open? _ (closeLiteral?_eq_some_iff.2 ⟨body, paired, rfl, whole, single⟩)

theorem closeName?_eq_none_iff {s : Text} : closeName? s = none ↔ '"' ∉ s := by
  fun_induction closeName? s with
  | case1 => simp
  | case2 r => simp
  | case3 c r other ih =>
    rw [Option.map_eq_none_iff, ih, List.mem_cons, not_or]
    exact ⟨fun missing => ⟨Ne.symm other, missing⟩, And.right⟩

theorem closeName?_eq_some_iff {s body rest : Text} :
    closeName? s = some (body, rest) ↔
      ∃ inner, '"' ∉ inner ∧ body = inner ++ ['"'] ∧ s = inner ++ '"' :: rest := by
  constructor
  · intro closed
    fun_induction closeName? s generalizing body rest with
    | case1 => cases closed
    | case2 r =>
      obtain ⟨rfl, rfl⟩ := Prod.mk.inj (Option.some.inj closed)
      exact ⟨[], List.not_mem_nil, rfl, rfl⟩
    | case3 c r other ih =>
      obtain ⟨⟨b, t⟩, closes, same⟩ := Option.map_eq_some_iff.1 closed
      obtain ⟨rfl, rfl⟩ := Prod.mk.inj same
      obtain ⟨inner, unmarked, rfl, rfl⟩ := ih closes
      exact ⟨c :: inner, List.not_mem_cons_of_ne_of_not_mem (Ne.symm other) unmarked, rfl, rfl⟩
  · rintro ⟨inner, unmarked, rfl, rfl⟩
    induction inner with
    | nil => rw [List.nil_append, closeName?, if_pos rfl]; rfl
    | cons c inner ih =>
      have other := List.ne_of_not_mem_cons unmarked
      rw [List.cons_append, closeName?, if_neg other.symm,
        ih (List.not_mem_of_not_mem_cons unmarked)]
      rfl

end SqlDialect

import SqlDialect.Proofs.Token.Join
import SqlDialect.Proofs.Query.Placeholder

/-! Which quotation marks of a text are closed.

A doubled mark inside a literal is as good as one that closes it and one that opens the next. So
the marks alone decide, read one after the other, whether some mark is left open.
-/

set_option autoImplicit false

namespace SqlDialect

/-- What a character stands in. -/
inductive Place where
  | outside
  | literal
  | name
  deriving DecidableEq

namespace Place

def step : Place → Char → Place
  | outside, c => if c = '\'' then literal else if c = '"' then name else outside
  | literal, c => if c = '\'' then outside else literal
  | name, c => if c = '"' then outside else name

/-- The place after a text. -/
def after (place : Place) (s : Text) : Place := s.foldl step place

variable {place : Place} {s t : Text} {c : Char}

@[simp] theorem after_nil (place : Place) : place.after [] = place := rfl

@[simp] theorem after_cons (place : Place) (c : Char) (s : Text) :
    place.after (c :: s) = (place.step c).after s := rfl

@[simp] theorem after_append (place : Place) (s t : Text) :
    place.after (s ++ t) = (place.after s).after t := List.foldl_append ..

theorem step_of_ne (noMark : c ≠ '\'') (noDoubleMark : c ≠ '"') : place.step c = place := by
  cases place <;> simp [step, noMark, noDoubleMark]

theorem after_of_not_mem (noMark : '\'' ∉ s) (noDoubleMark : '"' ∉ s) :
    place.after s = place := by
  induction s with
  | nil => rfl
  | cons c s ih =>
    have noMark₁ := List.ne_of_not_mem_cons noMark
    have noDoubleMark₁ := List.ne_of_not_mem_cons noDoubleMark
    rw [after_cons, step_of_ne noMark₁.symm noDoubleMark₁.symm,
      ih (List.not_mem_of_not_mem_cons noMark) (List.not_mem_of_not_mem_cons noDoubleMark)]

theorem literal_after (paired : Paired s) : literal.after s = literal := by
  induction paired with
  | nil => rfl
  | pair _ ih => exact ih
  | char other _ ih => simpa [step, other] using ih

theorem name_after (unmarked : '"' ∉ s) : name.after s = name := by
  induction s with
  | nil => rfl
  | cons c s ih =>
    have other := List.ne_of_not_mem_cons unmarked
    simpa [step, other.symm] using ih (List.not_mem_of_not_mem_cons unmarked)

end Place

open Place

theorem Text.Blank.after {gap : Text} (blank : gap.Blank) (place : Place) :
    place.after gap = place :=
  after_of_not_mem (blank.not_mem (by decide)) (blank.not_mem (by decide))

/-- A token closes what it opens, unless it is a lone mark: then all the rest is left open. -/
theorem Begins.closed_iff {t r : Text} (begins : Begins t r) :
    ¬(⟨t⟩ : Token).IsLone ∧ outside.after r = outside ↔ outside.after (t ++ r) = outside := by
  rw [after_append]
  rcases begins.marks with ⟨body, inner, rfl, -⟩ | ⟨inner, rfl⟩ | ⟨body, inner, rfl⟩ |
    ⟨inner, rfl⟩ | ⟨noMark, noDoubleMark⟩
  · simp [Token.IsLone, step, literal_after inner]
  · simp [Token.IsLone, step, literal_after inner]
  · simp [Token.IsLone, step, name_after inner]
  · simp [Token.IsLone, step, name_after inner]
  · have closed : ¬(⟨t⟩ : Token).IsLone := by
      rintro (rfl | rfl)
      · exact noMark List.mem_cons_self
      · exact noDoubleMark List.mem_cons_self
    simp [closed, after_of_not_mem noMark noDoubleMark]

theorem Segmentation.closed_iff {s last : Text} {pieces : List (Text × Token)}
    (cut : Segmentation s pieces last) :
    (∀ t ∈ pieces.map Prod.snd, ¬t.IsLone) ↔ outside.after s = outside := by
  induction cut with
  | last blank => simp [blank.after]
  | token whole blank begins _ ih =>
    rw [List.map_cons, List.forall_mem_cons, ih, whole, after_append, blank.after,
      begins.closed_iff]

theorem tokenize_closed_iff (s : Text) :
    (∀ t ∈ tokenize s, ¬t.IsLone) ↔ outside.after s = outside := by
  obtain ⟨pieces, last, cut⟩ := exists_segmentation s
  rw [← cut.tokens]
  exact cut.closed_iff

theorem after_convertFrom (place : Place) (n : Nat) (s : Text) :
    place.after (convertFrom .question n s) = place.after s := by
  fun_induction convertFrom .question n s generalizing place with
  | case1 => rfl
  | case2 n r ih =>
    rw [after_append, ih]
    simp [PlaceholderStyle.mark, step_of_ne]
  | case3 n r ih => simp [ih, step_of_ne]
  | case4 n c r _ _ ih => exact ih _

theorem convertPlaceholders_closed_iff (query : Text) :
    (∀ t ∈ tokenize (convertPlaceholders query .question), ¬t.IsLone) ↔
      ∀ t ∈ tokenize query, ¬t.IsLone := by
  rw [tokenize_closed_iff, tokenize_closed_iff, convertPlaceholders, after_convertFrom]

end SqlDialect

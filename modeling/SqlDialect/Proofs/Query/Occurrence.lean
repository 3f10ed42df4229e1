import SqlDialect.Proofs.Query.Comparison

/-! The membership tests of a query, from left to right.

Two tests never overlap, so a query falls apart in one way into its tests and the text between
them.
-/

set_option autoImplicit false

namespace SqlDialect

/-- Tests written out, each with the text that follows it. -/
def joinTests (tail : List (Text × Text)) : Text := tail.flatMap fun (test, gap) => test ++ gap

@[simp] theorem joinTests_nil : joinTests [] = [] := rfl

@[simp] theorem joinTests_cons (test gap : Text) (tail : List (Text × Text)) :
    joinTests ((test, gap) :: tail) = test ++ (gap ++ joinTests tail) := by
  simp [joinTests]

/-- A query taken apart at its membership tests: what stands before the first, and each test with
the text that follows it. Every place at which a test stands is listed. -/
structure Cut (query first : Text) (tail : List (Text × Text)) : Prop where
  whole : query = first ++ joinTests tail
  tests : ∀ p ∈ tail, MembershipTest p.1
  all : ∀ before test after, MembershipTest test → query = before ++ (test ++ after) →
    ∃ done gap left, tail = done ++ (test, gap) :: left ∧ before = first ++ joinTests done

namespace Cut

variable {query first gap test rest : Text} {tail : List (Text × Text)}

theorem nil_iff :
    Cut query first [] ↔
      query = first ∧ ∀ before test after, MembershipTest test → query ≠ before ++ (test ++ after) := by
  constructor
  · intro cut
    refine ⟨by simpa using cut.whole, fun before test after membership same => ?_⟩
    obtain ⟨done, gap, left, none, _⟩ := cut.all before test after membership same
    simp at none
  · rintro ⟨rfl, absent⟩
    refine ⟨by simp, by simp, fun before test after membership same => ?_⟩
    exact absurd same (absent before test after membership)

-- The first test is the one that begins first, and what follows it is cut in the same way.
theorem cons_iff :
    Cut query first ((test, gap) :: tail) ↔
      MembershipTest test ∧ query = first ++ (test ++ (gap ++ joinTests tail)) ∧
      (∀ before test after, MembershipTest test → query = before ++ (test ++ after) →
        first.length ≤ before.length) ∧
      Cut (gap ++ joinTests tail) gap tail := by
  constructor
  · intro cut
    have whole := cut.whole
    rw [joinTests_cons] at whole
    refine ⟨cut.tests _ List.mem_cons_self, whole, ?_, rfl, ?_, ?_⟩
    · intro before test' after membership same
      obtain ⟨done, gap', left, _, rfl⟩ := cut.all before test' after membership same
      simp
    · exact fun p mem => cut.tests p (List.mem_cons_of_mem _ mem)
    · intro before test' after membership same
      obtain ⟨done, gap', left, listed, place⟩ := cut.all (first ++ (test ++ before)) test' after
        membership (by rw [whole, same]; simp)
      cases done with
      | nil =>
        obtain ⟨rest', rfl, _⟩ := (cut.tests _ List.mem_cons_self).exists_cons
        simp at place
      | cons p done =>
        obtain ⟨rfl, rfl⟩ := List.cons.inj listed
        simp only [joinTests_cons, List.append_cancel_left_eq] at place
        exact ⟨done, gap', left, rfl, place⟩
  · rintro ⟨membership, whole, earliest, cut⟩
    refine ⟨by rw [joinTests_cons, whole], ?_, ?_⟩
    · rintro p mem
      rcases List.mem_cons.1 mem with rfl | mem
      · exact membership
      · exact cut.tests p mem
    · intro before test' after membership' same
      have later : first <+: before :=
        List.prefix_of_prefix_length_le ⟨_, whole.symm⟩ ⟨_, same.symm⟩
          (earliest before test' after membership' same)
      obtain ⟨place, rfl⟩ := later
      rw [whole, List.append_assoc, List.append_cancel_left_eq] at same
      rcases membership.eq_or_after membership' same with ⟨rfl, rfl, -⟩ | ⟨before, rfl, rest⟩
      · exact ⟨[], gap, tail, rfl, by simp⟩
      · obtain ⟨done, gap', left, listed, rfl⟩ := cut.all before test' after membership' rest
        exact ⟨(test, gap) :: done, gap', left, by rw [listed]; rfl, by simp⟩

-- A cut text after other text is cut in the same way if no test begins in the other text.
theorem prepend (lead : Text) (cut : Cut rest gap tail)
    (apart : ∀ before test after, MembershipTest test → lead ++ rest = before ++ (test ++ after) →
      lead.length ≤ before.length) :
    Cut (lead ++ rest) (lead ++ gap) tail := by
  refine ⟨by rw [cut.whole, List.append_assoc], cut.tests, ?_⟩
  intro before test after membership same
  have later : lead <+: before :=
    List.prefix_of_prefix_length_le (List.prefix_append lead rest) ⟨_, same.symm⟩
      (apart before test after membership same)
  obtain ⟨place, rfl⟩ := later
  rw [List.append_assoc, List.append_cancel_left_eq] at same
  obtain ⟨done, gap', left, listed, rfl⟩ := cut.all place test after membership same
  exact ⟨done, gap', left, listed, by simp⟩

theorem unique {first' : Text} {tail' : List (Text × Text)} (cut : Cut query first tail)
    (cut' : Cut query first' tail') : first = first' ∧ tail = tail' := by
  induction tail generalizing query first first' tail' with
  | nil =>
    obtain ⟨rfl, absent⟩ := nil_iff.1 cut
    cases tail' with
    | nil => exact ⟨(nil_iff.1 cut').1, rfl⟩
    | cons p tail' =>
      obtain ⟨membership, whole, -, -⟩ := cons_iff.1 cut'
      exact absurd whole (absent _ _ _ membership)
  | cons p tail ih =>
    obtain ⟨test, gap⟩ := p
    obtain ⟨membership, whole, earliest, rest⟩ := cons_iff.1 cut
    cases tail' with
    | nil => exact absurd whole ((nil_iff.1 cut').2 _ _ _ membership)
    | cons p' tail' =>
      obtain ⟨test', gap'⟩ := p'
      obtain ⟨membership', whole', earliest', rest'⟩ := cons_iff.1 cut'
      have places : first.length = first'.length :=
        Nat.le_antisymm (earliest _ _ _ membership' whole') (earliest' _ _ _ membership whole)
      obtain ⟨rfl, same⟩ := List.append_inj (whole.symm.trans whole') places
      obtain ⟨rfl, after⟩ := membership.eq_of_append_eq membership' same
      rw [← after] at rest'
      obtain ⟨rfl, rfl⟩ := ih rest rest'
      exact ⟨rfl, rfl⟩

end Cut

def afterTest? : Text → Option Text
  | [] => none
  | c :: r => if c = '=' then afterAny? r else none

theorem afterTest?_eq_some_iff {s r : Text} :
    afterTest? s = some r ↔ ∃ test, MembershipTest test ∧ s = test ++ r := by
  constructor
  · intro read
    cases s with
    | nil => cases read
    | cons c s =>
      by_cases equals : c = '='
      · subst equals
        rw [afterTest?, if_pos rfl] at read
        obtain ⟨w, list, hw, hList, rfl⟩ := afterAny?_eq_some_iff.1 read
        exact ⟨_, .intro hw hList, by simp⟩
      · rw [afterTest?, if_neg equals] at read
        cases read
  · rintro ⟨_, ⟨hw, hList⟩, rfl⟩
    exact afterAny?_eq_some_iff.2 ⟨_, _, hw, hList, by simp⟩

theorem length_afterTest?_lt {s r : Text} (read : afterTest? s = some r) : r.length < s.length := by
  obtain ⟨test, membership, rfl⟩ := afterTest?_eq_some_iff.1 read
  obtain ⟨rest, rfl, -⟩ := membership.exists_cons
  simp only [List.length_append, List.length_cons]
  omega

def cutTests (query : Text) : Text × List (Text × Text) :=
  match query with
  | [] => ([], [])
  | c :: r =>
    match _h : afterTest? (c :: r) with
    | some after =>
      let test := (c :: r).take ((c :: r).length - after.length)
      ([], (test, (cutTests after).1) :: (cutTests after).2)
    | none => (c :: (cutTests r).1, (cutTests r).2)
termination_by query.length
decreasing_by
  · exact length_afterTest?_lt _h
  · simp

theorem cut_cutTests (query : Text) : Cut query (cutTests query).1 (cutTests query).2 := by
  fun_induction cutTests query with
  | case1 =>
    refine Cut.nil_iff.2 ⟨rfl, fun before test after membership same => ?_⟩
    obtain ⟨rest, rfl, -⟩ := membership.exists_cons
    simp at same
  | case2 c r after read test ih =>
    obtain ⟨test', membership, whole⟩ := afterTest?_eq_some_iff.1 read
    have same : test = test' := by
      simp only [test, whole]
      simp
    rw [same, whole]
    refine Cut.cons_iff.2 ⟨membership, by rw [← ih.whole]; rfl, by simp, ?_⟩
    rw [← ih.whole]
    exact ih
  | case3 c r missing ih =>
    refine ih.prepend [c] fun before test after membership same => ?_
    cases before with
    | nil =>
      have read := afterTest?_eq_some_iff.2 ⟨test, membership, same⟩
      cases missing.symm.trans read
    | cons d before => simp

end SqlDialect

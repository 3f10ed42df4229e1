import SqlDialect.Proofs.Query.Occurrence

/-! The search for the first membership test.

It wants a character before the white space that stands before a test, or the beginning of the
query. In a query without other comparisons that character is never one of their signs, so no
test escapes.
-/

set_option autoImplicit false

namespace SqlDialect

open Text (Blank)

/-- No comparison in the query is anything but an equality. -/
def OnlyEqualities (query : Text) : Prop := ∀ other, OtherComparison other → ¬other <:+: query

theorem not_blank_of_long {lead w s r : Text} {c : Char} (visible : isBlank c = false)
    (same : lead ++ c :: s = w ++ r) (long : lead.length < w.length) : ¬Blank w := by
  intro blank
  have inside : lead ++ [c] <+: w := by
    refine List.prefix_of_prefix_length_le ⟨s, by simp⟩ ⟨r, same.symm⟩ ?_
    rw [List.length_append, List.length_singleton]
    exact long
  exact blank.not_mem visible (inside.subset (by simp))

theorem findMembershipFrom?_eq_none {s : Text}
    (absent : ∀ before test after, MembershipTest test → s ≠ before ++ (test ++ after)) :
    findMembershipFrom? s = none := by
  induction s with
  | nil => rfl
  | cons c s ih =>
    have later : ∀ before test after, MembershipTest test → s ≠ before ++ (test ++ after) :=
      fun before test after membership same =>
        absent (c :: before) test after membership (by rw [same]; rfl)
    have here : afterEqualsAny? s = none := by
      rw [Option.eq_none_iff_forall_ne_some]
      intro after read
      obtain ⟨w, test, -, membership, same⟩ := afterEqualsAny?_eq_some_iff.1 read
      exact later w test after membership same
    rw [findMembershipFrom?, here, ih later]
    simp

theorem findMembershipFrom?_eq_some {lead w test rest : Text} {c : Char}
    (visible : isBlank c = false) (plain : isOtherSign c = false) (blank : Blank w)
    (membership : MembershipTest test)
    (earliest : ∀ before test' after, MembershipTest test' →
      lead ++ c :: (w ++ (test ++ rest)) = before ++ (test' ++ after) →
      lead.length < before.length) :
    findMembershipFrom? (lead ++ c :: (w ++ (test ++ rest))) = some (lead ++ [c], rest) := by
  induction lead with
  | nil =>
    have here : afterEqualsAny? (w ++ (test ++ rest)) = some rest :=
      afterEqualsAny?_eq_some_iff.2 ⟨w, test, blank, membership, rfl⟩
    rw [List.nil_append, findMembershipFrom?, here]
    simp [visible, plain]
  | cons d lead ih =>
    have here : afterEqualsAny? (lead ++ c :: (w ++ (test ++ rest))) = none := by
      rw [Option.eq_none_iff_forall_ne_some]
      intro after read
      obtain ⟨w', test', blank', membership', same⟩ := afterEqualsAny?_eq_some_iff.1 read
      have long := earliest (d :: w') test' after membership' (by rw [List.cons_append, same]; rfl)
      exact not_blank_of_long visible same (by simpa using long) blank'
    rw [List.cons_append, findMembershipFrom?, here, ih]
    · simp
    · intro before test' after membership' same
      have long := earliest (d :: before) test' after membership' (by rw [List.cons_append, same]; rfl)
      simpa using long

theorem findMembership?_of_nil {query first : Text} (cut : Cut query first []) :
    findMembership? query = none := by
  obtain ⟨-, absent⟩ := Cut.nil_iff.1 cut
  have here : afterEqualsAny? query = none := by
    rw [Option.eq_none_iff_forall_ne_some]
    intro after read
    obtain ⟨w, test, -, membership, same⟩ := afterEqualsAny?_eq_some_iff.1 read
    exact absent w test after membership same
  rw [findMembership?, here]
  exact findMembershipFrom?_eq_none absent

theorem findMembership?_of_cons {query first test gap : Text} {tail : List (Text × Text)}
    (cut : Cut query first ((test, gap) :: tail)) (equalities : OnlyEqualities query) :
    findMembership? query = some (first.trimEnd, gap ++ joinTests tail) := by
  obtain ⟨membership, whole, earliest, -⟩ := Cut.cons_iff.1 cut
  obtain ⟨w, blank, split⟩ := first.exists_trimEnd_append
  rcases first.trimEnd_eq_nil_or_concat with empty | ⟨lead, c, ends, visible⟩
  · rw [empty, List.nil_append] at split
    subst split
    have here := afterEqualsAny?_eq_some_iff.2 ⟨first, test, blank, membership, whole⟩
    rw [findMembership?, here, empty]
  · rw [ends] at split ⊢
    rw [split, List.append_assoc, List.append_assoc] at whole
    rw [split, List.length_append, List.length_append] at earliest
    have plain : isOtherSign c = false := by
      refine Bool.eq_false_iff.2 fun sign => ?_
      refine equalities _ (.signEquals (isOtherSign_iff.1 sign) blank membership) ?_
      exact ⟨lead, gap ++ joinTests tail, by rw [whole]; simp⟩
    have here : afterEqualsAny? query = none := by
      rw [Option.eq_none_iff_forall_ne_some]
      intro after read
      obtain ⟨w', test', blank', membership', same⟩ := afterEqualsAny?_eq_some_iff.1 read
      have long := earliest w' test' after membership' same
      rw [whole] at same
      refine not_blank_of_long visible same ?_ blank'
      simp only [List.length_singleton] at long
      omega
    rw [findMembership?, here]
    rw [whole]
    refine findMembershipFrom?_eq_some visible plain blank membership ?_
    intro before test' after membership' same
    have long := earliest before test' after membership' (whole.trans same)
    simp only [List.length_singleton] at long
    omega

end SqlDialect

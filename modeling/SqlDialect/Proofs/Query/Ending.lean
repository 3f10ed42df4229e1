import SqlDialect.Proofs.Query.Outcome
import SqlDialect.Proofs.Query.Phrase

/-! The text after the last membership test of a query.

A test ends with a closing bracket. Text without one that is put at the end of a query makes no
test and ends none, so it stands at the end of the spread query as it is, whatever lists are
spread. The request for the new row's number has no bracket either and is looked for at the end,
so whether a query has it depends on this text alone.
-/

set_option autoImplicit false

namespace SqlDialect

namespace Phrase

variable {p : Phrase} {s t lead before r : Text}

theorem after?_nil (p : Phrase) : p.after? [] = none := by
  rw [Option.eq_none_iff_forall_ne_some]
  intro r read
  exact absurd (p.shorter read) (Nat.not_lt_zero _)

theorem find?_cons_of_none {c : Char} (missing : p.after? (c :: s) = none) :
    p.find? (c :: s) = (p.find? s).map fun (before, r) => (c :: before, r) := by
  rw [find?, missing]

theorem find?_eq_none_iff : p.find? s = none ↔ ∀ u, u <:+ s → p.after? u = none := by
  induction s with
  | nil =>
    constructor
    · intro _ u inside
      rw [List.suffix_nil.1 inside]
      exact p.after?_nil
    · exact fun _ => rfl
  | cons c s ih =>
    constructor
    · intro missing u inside
      cases read : p.after? (c :: s) with
      | some r =>
        rw [find?, read] at missing
        cases missing
      | none =>
        rw [find?_cons_of_none read, Option.map_eq_none_iff, ih] at missing
        rcases List.suffix_cons_iff.1 inside with rfl | later
        · exact read
        · exact missing u later
    · intro absent
      rw [find?_cons_of_none (absent _ (List.suffix_refl _)), Option.map_eq_none_iff, ih]
      exact fun u inside => absent u (inside.trans (List.suffix_cons c s))

theorem find?_append (missing : ∀ u, u ≠ [] → u <:+ lead → p.after? (u ++ t) = none) :
    p.find? (lead ++ t) = (p.find? t).map fun (before, r) => (lead ++ before, r) := by
  induction lead with
  | nil => simp
  | cons c lead ih =>
    have here := missing (c :: lead) (List.cons_ne_nil c lead) (List.suffix_refl _)
    have later := ih fun u some inside => missing u some (inside.trans (List.suffix_cons c lead))
    rw [List.cons_append] at here ⊢
    rw [find?_cons_of_none here, later, Option.map_map]
    rfl

end Phrase

/-! ## Membership tests before the end -/

section

variable {query first comparison before after t x : Text} {tail : List (Text × Text)}
  {params params' : List Param}

theorem ComparisonShape.within (shape : ComparisonShape comparison) (plain : ')' ∉ t)
    (same : query ++ t = before ++ (comparison ++ after)) :
    ∃ r, query = before ++ (comparison ++ r) ∧ after = r ++ t := by
  rw [← List.append_assoc] at same
  rcases List.append_eq_append_iff.1 same with ⟨inside, whole, split⟩ | ⟨r, whole, split⟩
  · rcases List.eq_nil_or_concat' inside with rfl | ⟨lead, d, rfl⟩
    · refine ⟨[], ?_, split.symm⟩
      simpa using whole.symm
    · obtain ⟨body, rfl⟩ := shape.last
      rw [← List.append_assoc, ← List.append_assoc] at whole
      have bracket := List.append_inj_right' whole rfl
      refine absurd ?_ plain
      rw [split, ← List.singleton_injective bracket]
      simp
  · exact ⟨r, by rw [whole, List.append_assoc], split⟩

theorem OnlyEqualities.append_iff (plain : ')' ∉ t) :
    OnlyEqualities (query ++ t) ↔ OnlyEqualities query := by
  constructor
  · exact fun equalities other comparison inside =>
      equalities other comparison (inside.trans (List.prefix_append query t).isInfix)
  · rintro equalities other comparison ⟨before, after, whole⟩
    rw [List.append_assoc] at whole
    obtain ⟨r, rfl, -⟩ := comparison.shape.within plain whole.symm
    exact equalities other comparison ⟨before, r, List.append_assoc ..⟩

/-- A query with more at its end has the tests that it had, and is spread as it was. -/
theorem Cut.append (cut : Cut query first tail) (plain : ')' ∉ t) :
    ∃ first' tail', Cut (query ++ t) first' tail' ∧ tail'.length = tail.length ∧
      ∀ lists, tail.length ≤ lists.length →
        spreadTests first' tail' lists = spreadTests first tail lists ++ t := by
  induction tail generalizing query first with
  | nil =>
    obtain ⟨rfl, absent⟩ := Cut.nil_iff.1 cut
    refine ⟨query ++ t, [], Cut.nil_iff.2 ⟨rfl, ?_⟩, rfl, by simp [spreadTests]⟩
    intro before test after membership same
    obtain ⟨r, whole, -⟩ := membership.shape.within plain same
    exact absent before test r membership whole
  | cons p tail ih =>
    obtain ⟨test, gap⟩ := p
    obtain ⟨membership, whole, earliest, rest⟩ := Cut.cons_iff.1 cut
    obtain ⟨gap', tail', cut', length, spread⟩ := ih rest
    have later := cut'.whole
    refine ⟨first, (test, gap') :: tail', Cut.cons_iff.2 ⟨membership, ?_, ?_, later ▸ cut'⟩, ?_, ?_⟩
    · rw [← later, whole]
      simp
    · intro before test' after membership' same
      obtain ⟨r, whole', -⟩ := membership'.shape.within plain same
      exact earliest before test' r membership' whole'
    · rw [List.length_cons, List.length_cons, length]
    · intro lists enough
      cases lists with
      | nil => simp at enough
      | cons items lists =>
        rw [spreadTests, spreadTests, spread lists (Nat.le_of_succ_le_succ enough)]
        simp

theorem expandAny_append (plain : ')' ∉ t) :
    expandAny (query ++ t) params = .ok (x, params') ↔
      ∃ s, x = s ++ t ∧ expandAny query params = .ok (s, params') := by
  have cut := cut_cutTests query
  obtain ⟨first', tail', cut', length, spread⟩ := cut.append plain
  by_cases equalities : OnlyEqualities query
  · rw [expandAny_of_onlyEqualities params cut' ((OnlyEqualities.append_iff plain).2 equalities),
      expandAny_of_onlyEqualities params cut equalities, length]
    split
    next enough =>
      rw [spread _ enough]
      constructor
      · rintro ⟨⟩
        exact ⟨_, rfl, rfl⟩
      · rintro ⟨_, rfl, ⟨⟩⟩
        rfl
    next => simp
  · constructor
    · intro expanded
      obtain ⟨_, _, -, equalities', -⟩ := expandAny_eq_ok expanded
      exact absurd ((OnlyEqualities.append_iff plain).1 equalities') equalities
    · rintro ⟨_, -, expanded⟩
      obtain ⟨_, _, -, equalities', -⟩ := expandAny_eq_ok expanded
      exact absurd equalities' equalities

end

/-! ## The request at the end -/

variable {query first lead gap t : Text} {tail : List (Text × Text)} {lists : List (List Cell)}

theorem snd_stripReturningId (query : Text) :
    (stripReturningId query).2 = (returningId.find? query).isSome := by
  unfold stripReturningId
  split
  next found => rw [found]; rfl
  next missing => rw [missing]; rfl

theorem find?_returningId_append (bracket : lead.getLast? = some ')') :
    returningId.find? (lead ++ t) =
      (returningId.find? t).map fun (before, r) => (lead ++ before, r) := by
  refine Phrase.find?_append fun u some inside => Option.eq_none_iff_forall_ne_some.2 ?_
  intro r read
  obtain ⟨lead', whole, plain⟩ := (Phrase.passes_returningId read).exists_append [')']
    (by decide) (by decide)
  have closing : ')' ∈ u := by
    obtain ⟨before, rfl⟩ := inside
    rw [List.getLast?_append_of_ne_nil _ some] at bracket
    exact List.mem_of_getLast? bracket
  rw [List.append_nil] at whole
  exact plain ')' List.mem_cons_self (whole ▸ List.mem_append_left t closing)

def lastGap : Text → List (Text × Text) → Text
  | first, [] => first
  | _, (_, gap) :: tail => lastGap gap tail

theorem exists_spreadTests_eq (first : Text) (enough : tail.length ≤ lists.length) :
    ∃ lead, spreadTests first tail lists = lead ++ lastGap first tail ∧
      (lead = [] ∨ lead.getLast? = some ')') := by
  induction tail generalizing first lists with
  | nil => exact ⟨[], by simp [spreadTests, lastGap], .inl rfl⟩
  | cons p tail ih =>
    obtain ⟨test, gap⟩ := p
    cases lists with
    | nil => simp at enough
    | cons items lists =>
      obtain ⟨lead, spread, ends⟩ := ih gap (Nat.le_of_succ_le_succ enough)
      obtain ⟨inside, written, -⟩ := exists_inPlaceholders_eq items.length
      refine ⟨first.trimEnd ++ (inPlaceholders items.length ++ lead), ?_, .inr ?_⟩
      · simp [spreadTests, lastGap, spread]
      · rcases ends with rfl | bracket
        · rw [List.append_nil, written, ← List.cons_append, ← List.cons_append, ← List.append_assoc,
            List.getLast?_concat]
        · simp [bracket]

theorem snd_stripReturningId_spreadTests (first : Text) (enough : tail.length ≤ lists.length) :
    (stripReturningId (spreadTests first tail lists)).2 =
      (stripReturningId (lastGap first tail)).2 := by
  obtain ⟨lead, spread, rfl | bracket⟩ := exists_spreadTests_eq first enough
  · rw [spread, List.nil_append]
  · rw [spread, snd_stripReturningId, snd_stripReturningId, find?_returningId_append bracket,
      Option.isSome_map]

theorem hints_massage {params params' : List Param} {a b : Massaged}
    (through : massage query params = .ok a) (through' : massage query params' = .ok b) :
    a.hints = b.hints := by
  have hints {params : List Param} {a : Massaged} (through : massage query params = .ok a) :
      a.hints = ⟨(stripNullsOrder query).2, (stripReturningId (lastGap
        (cutTests (stripNullsOrder query).1).1 (cutTests (stripNullsOrder query).1).2)).2⟩ := by
    obtain ⟨spread, params', expanded, -, rfl⟩ := massage_eq_ok_iff.1 through
    obtain ⟨first, tail, cut, -, enough, rfl, -⟩ := expandAny_eq_ok expanded
    obtain ⟨rfl, rfl⟩ := (cut_cutTests _).unique cut
    rw [snd_stripReturningId_spreadTests _ enough]
  rw [hints through, hints through']

end SqlDialect

import SqlDialect.Proofs.Query.Spread
import SqlDialect.Query.Massage

/-! When a query and its parameters go together, and what becomes of the parameters.

Spreading uses up one list for each membership test, and what is left of the lists is refused at
the end. A query that goes through has therefore lost none of its values.
-/

set_option autoImplicit false

namespace SqlDialect

theorem listItems_spreadFirst (n : Nat) (params : List Param) :
    listItems (spreadFirst n params) = (listItems params).drop n := by
  induction params generalizing n with
  | nil => cases n <;> rfl
  | cons p params ih =>
    cases n with
    | zero => rw [spreadFirst_zero, List.drop_zero]
    | succ n =>
      cases p with
      | scalar c => rw [spreadFirst, listItems, ih, listItems]
      | list items =>
        rw [spreadFirst, listItems_append, listItems_map_scalar, ih, listItems]
        rfl

theorem cells_spreadFirst (n : Nat) (params : List Param) :
    (spreadFirst n params).flatMap Param.cells = params.flatMap Param.cells := by
  induction params generalizing n with
  | nil => cases n <;> rfl
  | cons p params ih =>
    cases n with
    | zero => rw [spreadFirst_zero]
    | succ n =>
      cases p with
      | scalar c => rw [spreadFirst, List.flatMap_cons, ih, List.flatMap_cons]
      | list items =>
        have kept : (items.map Param.scalar).flatMap Param.cells = items := by
          rw [List.flatMap_map]
          exact List.flatMap_singleton' items
        rw [spreadFirst, List.flatMap_append, kept, ih, List.flatMap_cons]
        rfl

theorem any_isList_iff (params : List Param) :
    params.any Param.isList = true ↔ 0 < (listItems params).length := by
  rw [length_listItems, List.countP_pos_iff, List.any_eq_true]

variable {query first : Text} {tail : List (Text × Text)}

theorem massage_eq_bind (query : Text) (params : List Param) :
    massage query params =
      (expandAny (stripNullsOrder query).1 params).bind fun spread =>
        (flatten (translateQuery (stripReturningId spread.1).1) spread.2).bind fun cells =>
          .ok ⟨translateQuery (stripReturningId spread.1).1, cells,
            ⟨(stripNullsOrder query).2, (stripReturningId spread.1).2⟩⟩ := rfl

theorem massage_eq_ok_iff {params : List Param} {massaged : Massaged} :
    massage query params = .ok massaged ↔
      ∃ spread params', expandAny (stripNullsOrder query).1 params = .ok (spread, params') ∧
        params'.any Param.isList = false ∧
        massaged = ⟨translateQuery (stripReturningId spread).1, params'.flatMap Param.cells,
          ⟨(stripNullsOrder query).2, (stripReturningId spread).2⟩⟩ := by
  rw [massage_eq_bind]
  constructor
  · intro through
    cases expanded : expandAny (stripNullsOrder query).1 params with
    | error mismatch =>
      rw [expanded] at through
      cases through
    | ok spread =>
      cases left : spread.2.any Param.isList with
      | true =>
        simp only [expanded, Except.bind, flatten, left] at through
        cases through
      | false =>
        simp only [expanded, Except.bind, flatten, left] at through
        cases through
        exact ⟨spread.1, spread.2, rfl, left, rfl⟩
  · rintro ⟨spread, params', expanded, none, rfl⟩
    simp only [expanded, Except.bind, flatten, none]
    rfl

theorem exists_massage_eq_ok {params : List Param} {text : Text}
    (computed : (massage query params).toOption.map Massaged.query = some text) :
    ∃ massaged, massage query params = .ok massaged ∧ massaged.query = text := by
  cases through : massage query params with
  | error mismatch =>
    rw [through] at computed
    cases computed
  | ok massaged =>
    rw [through] at computed
    exact ⟨massaged, rfl, Option.some.inj computed⟩

theorem massage_of_otherComparison {other : Text} (params : List Param)
    (comparison : OtherComparison other) (inside : other <:+: (stripNullsOrder query).1) :
    ∃ found, massage query params =
      .error (.unsupportedComparison found (stripNullsOrder query).1) := by
  obtain ⟨found, refused⟩ := expandAny_of_otherComparison params comparison inside
  refine ⟨found, ?_⟩
  rw [massage_eq_bind, refused]
  rfl

theorem massage_of_onlyEqualities (params : List Param)
    (cut : Cut (stripNullsOrder query).1 first tail)
    (equalities : OnlyEqualities (stripNullsOrder query).1) :
    massage query params =
      if (listItems params).length < tail.length then
        .error (.noListLeft (spreadTests first tail (listItems params)))
      else
        let stripped := stripReturningId (spreadTests first tail (listItems params))
        if tail.length < (listItems params).length then
          .error (.listLeft (spreadFirst tail.length params) (translateQuery stripped.1))
        else
          .ok ⟨translateQuery stripped.1, params.flatMap Param.cells,
            ⟨(stripNullsOrder query).2, stripped.2⟩⟩ := by
  have left : (listItems (spreadFirst tail.length params)).length =
      (listItems params).length - tail.length := by
    rw [listItems_spreadFirst, List.length_drop]
  rw [massage_eq_bind, expandAny_of_onlyEqualities params cut equalities]
  by_cases few : (listItems params).length < tail.length
  · rw [if_neg (by omega), if_pos few]
    rfl
  · rw [if_pos (by omega), if_neg few]
    by_cases many : tail.length < (listItems params).length
    · have refused : (spreadFirst tail.length params).any Param.isList = true := by
        rw [any_isList_iff]
        omega
      simp only [Except.bind, flatten, if_pos refused, if_pos many]
    · have accepted : ¬(spreadFirst tail.length params).any Param.isList = true := by
        rw [any_isList_iff]
        omega
      simp only [Except.bind, flatten, if_neg accepted, if_neg many, cells_spreadFirst]

theorem massage_eq_ok {params : List Param} {massaged : Massaged}
    (through : massage query params = .ok massaged) :
    params.countP Param.isList = (cutTests (stripNullsOrder query).1).2.length ∧
      massaged.cells = params.flatMap Param.cells := by
  have equalities : OnlyEqualities (stripNullsOrder query).1 := by
    intro other comparison inside
    obtain ⟨found, refused⟩ := massage_of_otherComparison params comparison inside
    rw [refused] at through
    cases through
  rw [massage_of_onlyEqualities params (cut_cutTests _) equalities] at through
  rw [← length_listItems]
  split at through
  next => cases through
  next enough =>
    split at through
    next => cases through
    next used =>
      cases through
      exact ⟨by omega, rfl⟩

/-- A query goes together with its parameters exactly if it compares with lists by equality only
and has a test for each list. Otherwise it has no translation, or, with lists to spare, the
parameters are refused. No value is lost on the way. -/
theorem massage_succeeds_iff (query : Text) (params : List Param) :
    ∃ first tail, Cut (stripNullsOrder query).1 first tail ∧
      (∀ first' tail', Cut (stripNullsOrder query).1 first' tail' →
        first' = first ∧ tail' = tail) ∧
      ((∃ massaged, massage query params = .ok massaged) ↔
        OnlyEqualities (stripNullsOrder query).1 ∧ params.countP Param.isList = tail.length) ∧
      ((∃ reason, (massage query params).mapError Mismatch.toFault =
          .error (.translation reason)) ↔
        ¬OnlyEqualities (stripNullsOrder query).1 ∨ params.countP Param.isList < tail.length) ∧
      ((∃ reason shown refused, (massage query params).mapError Mismatch.toFault =
          .error (.invalidParameters reason shown refused)) ↔
        OnlyEqualities (stripNullsOrder query).1 ∧ tail.length < params.countP Param.isList) ∧
      ∀ massaged, massage query params = .ok massaged →
        massaged.cells = params.flatMap Param.cells := by
  have cut := cut_cutTests (stripNullsOrder query).1
  refine ⟨_, _, cut, fun first' tail' cut' => cut'.unique cut, ?_⟩
  rw [← length_listItems]
  by_cases equalities : OnlyEqualities (stripNullsOrder query).1
  · rw [massage_of_onlyEqualities params cut equalities]
    rcases Nat.lt_trichotomy (listItems params).length
      (cutTests (stripNullsOrder query).1).2.length with few | same | many
    · rw [if_pos few]
      simp [Except.mapError, Mismatch.toFault, equalities, few]
      omega
    · rw [if_neg (by omega)]
      simp [Except.mapError, equalities, same]
    · rw [if_neg (by omega)]
      simp [Except.mapError, Mismatch.toFault, equalities, many]
      omega
  · obtain ⟨other, comparison, inside⟩ : ∃ other, OtherComparison other ∧
        other <:+: (stripNullsOrder query).1 := by
      simpa [OnlyEqualities] using equalities
    obtain ⟨found, refused⟩ := massage_of_otherComparison params comparison inside
    rw [refused]
    simp [Except.mapError, Mismatch.toFault, equalities]

/-- A test that stands in the query only once a hint is taken out of it, and a list among
scalars. -/
theorem massage_succeeds_iff_hint_inside :
    ∃ massaged, massage "x = ANY NULLS FIRST (%s)"
        [.scalar (.bool true), .list [.null, .bool false], .scalar .null] = .ok massaged ∧
      massaged.cells = [.bool true, .null, .bool false, .null] := by
  obtain ⟨first, tail, cut, -, succeeds, -, -, kept⟩ := massage_succeeds_iff
    "x = ANY NULLS FIRST (%s)" [.scalar (.bool true), .list [.null, .bool false], .scalar .null]
  obtain ⟨rfl, rfl⟩ := cut.unique (cut_cutTests _)
  have plain : findOtherAny? (stripNullsOrder "x = ANY NULLS FIRST (%s)").1 = none := by
    decide +kernel
  obtain ⟨massaged, same⟩ := succeeds.2 ⟨findOtherAny?_eq_none_iff.1 plain, by decide +kernel⟩
  exact ⟨massaged, same, kept massaged same⟩

end SqlDialect

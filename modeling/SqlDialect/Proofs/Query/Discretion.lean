import SqlDialect.Proofs.Query.Outcome

/-! Two runs of a query with different values.

What massaging writes depends on the query and on how many elements each list has. So two runs
whose lists have the same sizes give the same text with the same hints, or are refused alike; the
values themselves show in the cells, and in a fault that shows the parameters, and nowhere else.
-/

set_option autoImplicit false

namespace SqlDialect

def listSizes (params : List Param) : List Nat := (listItems params).map List.length

/-- Outcomes that differ in nothing but values: in the cells, or where a fault shows parameters. -/
inductive SameButValues : Except Mismatch Massaged → Except Mismatch Massaged → Prop where
  | massaged {a b : Massaged} : a.query = b.query → a.hints = b.hints →
      SameButValues (.ok a) (.ok b)
  | translation {a b : Mismatch} {reason : Text} : a.toFault = .translation reason →
      b.toFault = .translation reason → SameButValues (.error a) (.error b)
  | invalidParameters {a b : Mismatch} {reason shown shown' query : Text} :
      a.toFault = .invalidParameters reason shown query →
      b.toFault = .invalidParameters reason shown' query → SameButValues (.error a) (.error b)

variable {params params' : List Param}

theorem length_listItems_of_sizes (sizes : listSizes params = listSizes params') :
    (listItems params).length = (listItems params').length := by
  have same := congrArg List.length sizes
  rwa [listSizes, listSizes, List.length_map, List.length_map] at same

-- For each test that is spread, only the number of elements of its list is written down.
theorem spreadTests_congr {lists lists' : List (List Cell)} (first : Text)
    (tail : List (Text × Text)) (sizes : lists.map List.length = lists'.map List.length) :
    spreadTests first tail lists = spreadTests first tail lists' := by
  induction tail generalizing first lists lists' with
  | nil =>
    rw [spreadTests, spreadTests] <;>
      exact fun _ _ _ _ _ same => absurd same (List.cons_ne_nil _ _).symm
  | cons p tail ih =>
    obtain ⟨test, gap⟩ := p
    cases lists with
    | nil =>
      rw [List.map_nil, eq_comm, List.map_eq_nil_iff] at sizes
      rw [sizes]
    | cons items lists =>
      cases lists' with
      | nil => cases sizes
      | cons items' lists' =>
        rw [List.map_cons, List.map_cons, List.cons.injEq] at sizes
        rw [spreadTests, spreadTests, sizes.1, ih gap sizes.2]

theorem massage_of_findOtherAny? {query found : Text} (params : List Param)
    (read : findOtherAny? (stripNullsOrder query).1 = some found) :
    massage query params = .error (.unsupportedComparison found (stripNullsOrder query).1) := by
  rw [massage_eq_bind, expandAny, read]
  rfl

/-- The values of parameters never reach the text of a query, its hints or the kind of a fault. -/
theorem massage_sameButValues (query : Text) (sizes : listSizes params = listSizes params') :
    SameButValues (massage query params) (massage query params') := by
  cases read : findOtherAny? (stripNullsOrder query).1 with
  | some found =>
    rw [massage_of_findOtherAny? params read, massage_of_findOtherAny? params' read]
    exact .translation rfl rfl
  | none =>
    have equalities : OnlyEqualities (stripNullsOrder query).1 := findOtherAny?_eq_none_iff.1 read
    have cut := cut_cutTests (stripNullsOrder query).1
    have text := spreadTests_congr (cutTests (stripNullsOrder query).1).1
      (cutTests (stripNullsOrder query).1).2 sizes
    rw [massage_of_onlyEqualities params cut equalities,
      massage_of_onlyEqualities params' cut equalities, length_listItems_of_sizes sizes, text]
    split
    · exact .translation rfl rfl
    · dsimp only
      split
      · exact .invalidParameters rfl rfl
      · exact .massaged rfl rfl

/-- A scalar more, other elements and other scalars, with what reads like a query among them. -/
theorem massage_sameButValues_other_scalars :
    listSizes [.scalar (.text "'; --"), .list [.null, .bool true]] =
      listSizes [.list [.text "%s", .text "?"], .scalar .null, .scalar (.bool false)] ∧
    (massage "DELETE FROM t WHERE a = %s AND b = ANY (%s) RETURNING id"
      [.scalar (.text "'; --"), .list [.null, .bool true]]).isOk = true ∧
    SameButValues
      (massage "DELETE FROM t WHERE a = %s AND b = ANY (%s) RETURNING id"
        [.scalar (.text "'; --"), .list [.null, .bool true]])
      (massage "DELETE FROM t WHERE a = %s AND b = ANY (%s) RETURNING id"
        [.list [.text "%s", .text "?"], .scalar .null, .scalar (.bool false)]) :=
  ⟨rfl, by decide +kernel, massage_sameButValues _ rfl⟩

end SqlDialect

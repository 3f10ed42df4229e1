import SqlDialect.Proofs.Query.Search

/-! Membership tests spread out over placeholders, told as one pass.

The search starts again in the rewritten query after each test, and takes lists from parameters
that change under it. Nothing it writes begins, ends or continues a comparison, so the tests left
are those that were there, and the lists left are those not yet used.
-/

set_option autoImplicit false

namespace SqlDialect

/-- The elements of each list among parameters. -/
def listItems : List Param → List (List Cell)
  | [] => []
  | .scalar _ :: rest => listItems rest
  | .list items :: rest => items :: listItems rest

/-- Parameters with so many of the first lists replaced by their elements. -/
def spreadFirst : Nat → List Param → List Param
  | n + 1, .scalar c :: rest => .scalar c :: spreadFirst (n + 1) rest
  | n + 1, .list items :: rest => items.map .scalar ++ spreadFirst n rest
  | _, params => params

/-- A cut query with a test in placeholders for each membership test, as long as there are lists;
the white space right before a test goes with it. -/
def spreadTests : Text → List (Text × Text) → List (List Cell) → Text
  | first, (_, gap) :: tail, items :: lists =>
    first.trimEnd ++ (inPlaceholders items.length ++ spreadTests gap tail lists)
  | first, tail, _ => first ++ joinTests tail

/-! ## Lists among parameters -/

theorem length_listItems (params : List Param) :
    (listItems params).length = params.countP Param.isList := by
  induction params with
  | nil => rfl
  | cons p params ih =>
    cases p with
    | scalar c => rw [listItems, List.countP_cons_of_neg (by simp [Param.isList]), ih]
    | list items => rw [listItems, List.countP_cons_of_pos rfl, List.length_cons, ih]

theorem listItems_append (params rest : List Param) :
    listItems (params ++ rest) = listItems params ++ listItems rest := by
  induction params with
  | nil => rfl
  | cons p params ih => cases p <;> simp [listItems, ih]

theorem listItems_map_scalar (cells : List Cell) : listItems (cells.map Param.scalar) = [] := by
  induction cells with
  | nil => rfl
  | cons c cells ih => rw [List.map_cons, listItems, ih]

theorem listItems_of_splitList?_none {params : List Param} (none : splitList? params = none) :
    listItems params = [] := by
  induction params with
  | nil => rfl
  | cons p params ih =>
    cases p with
    | scalar c => exact ih (by simpa [splitList?] using none)
    | list items => cases none

theorem listItems_of_splitList?_some {params left right : List Param} {items : List Cell}
    (split : splitList? params = some (left, items, right)) :
    listItems params = items :: listItems (left ++ items.map .scalar ++ right) := by
  induction params generalizing left with
  | nil => cases split
  | cons p params ih =>
    cases p with
    | list items =>
      cases split
      simp [listItems, listItems_append, listItems_map_scalar]
    | scalar c =>
      obtain ⟨⟨left, items, right⟩, found, same⟩ := Option.map_eq_some_iff.1 split
      cases same
      rw [listItems, ih found]
      rfl

theorem spreadFirst_map_scalar (n : Nat) (cells : List Cell) (rest : List Param) :
    spreadFirst n (cells.map .scalar ++ rest) = cells.map .scalar ++ spreadFirst n rest := by
  induction cells with
  | nil => rfl
  | cons c cells ih => cases n <;> simp_all [spreadFirst]

theorem spreadFirst_zero (params : List Param) : spreadFirst 0 params = params := by
  cases params <;> rfl

theorem spreadFirst_of_splitList? {params left right : List Param} {items : List Cell} (n : Nat)
    (split : splitList? params = some (left, items, right)) :
    spreadFirst (n + 1) params = spreadFirst n (left ++ items.map .scalar ++ right) := by
  induction params generalizing left with
  | nil => cases split
  | cons p params ih =>
    cases p with
    | list items =>
      cases split
      rw [spreadFirst, List.nil_append, spreadFirst_map_scalar]
    | scalar c =>
      obtain ⟨⟨left, items, right⟩, found, same⟩ := Option.map_eq_some_iff.1 split
      cases same
      have step := ih found
      cases n with
      | zero =>
        rw [spreadFirst_zero] at step
        rw [spreadFirst, step, spreadFirst_zero]
        rfl
      | succ n =>
        rw [spreadFirst, step]
        rfl

/-! ## What is written for a test -/

theorem mem_intercalate_placeholders {c : Char} {n : Nat}
    (mem : c ∈ List.intercalate [',', ' '] (List.replicate n ['?'])) : c ∈ [',', ' ', '?'] := by
  rcases mem_of_mem_intercalate mem with separator | ⟨mark, listed, inside⟩
  · exact List.mem_append_left ['?'] separator
  · rw [List.eq_of_mem_replicate listed] at inside
    exact List.mem_append_right [',', ' '] inside

theorem exists_inPlaceholders_eq (n : Nat) :
    ∃ inside, inPlaceholders n = ' ' :: 'I' :: (inside ++ [')']) ∧
      ∀ c ∈ inside, c ∈ ['N', ' ', '(', ',', '?'] := by
  refine ⟨['N', ' ', '('] ++ List.intercalate [',', ' '] (List.replicate n ['?']), rfl, ?_⟩
  intro c mem
  rcases List.mem_append.1 mem with head | later
  · exact List.mem_append_left [',', '?'] head
  · have own := mem_intercalate_placeholders later
    simp only [List.mem_cons, List.not_mem_nil, or_false] at own ⊢
    grind

theorem not_mem_inPlaceholders {c : Char} (n : Nat) (sign : c ∈ ['=', '!', '<', '>']) :
    c ∉ inPlaceholders n := by
  obtain ⟨inside, whole, own⟩ := exists_inPlaceholders_eq n
  rw [whole]
  simp only [List.mem_cons, List.mem_append, List.not_mem_nil, or_false] at *
  grind

theorem trimEnd_append_inPlaceholders (lead : Text) (n : Nat) (gap : Text) :
    Text.trimEnd (lead ++ inPlaceholders n ++ gap) =
      lead ++ (inPlaceholders n ++ gap.trimEnd) := by
  obtain ⟨inside, whole, -⟩ := exists_inPlaceholders_eq n
  have kept := Text.trimEnd_append_of_visible (lead ++ ' ' :: 'I' :: inside) gap
    (show isBlank ')' = false by decide)
  rw [whole]
  simpa using kept

-- A comparison in a text around a written test stands wholly before or wholly after it.
theorem ComparisonShape.append_cases {comparison lead rest before after : Text} {n : Nat}
    (shape : ComparisonShape comparison)
    (same : lead ++ (inPlaceholders n ++ rest) = before ++ (comparison ++ after)) :
    (∃ r, lead = before ++ (comparison ++ r)) ∨
      ∃ between, before = lead ++ (inPlaceholders n ++ between) ∧
        rest = between ++ (comparison ++ after) := by
  obtain ⟨c, body, sign, begins⟩ := shape.first
  rcases List.append_eq_append_iff.1 same with ⟨place, rfl, later⟩ | ⟨overlap, rfl, later⟩
  · right
    rcases List.append_eq_append_iff.1 later with ⟨between, rfl, split⟩ | ⟨inside, whole, split⟩
    · exact ⟨between, rfl, split⟩
    · cases inside with
      | nil => exact ⟨[], by rw [whole, List.append_nil, List.append_nil], split.symm⟩
      | cons d inside =>
        -- It would begin with a character that is written.
        rw [begins] at split
        obtain ⟨rfl, -⟩ := List.cons.inj split
        exact absurd (whole ▸ List.mem_append_right place List.mem_cons_self)
          (not_mem_inPlaceholders n sign)
  · left
    rcases List.append_eq_append_iff.1 later with ⟨r, rfl, -⟩ | ⟨inside, whole, split⟩
    · exact ⟨r, rfl⟩
    · obtain ⟨written, opening, -⟩ := exists_inPlaceholders_eq n
      rw [opening] at split
      -- It would end with the blank that is written first, or hold the letter after it.
      cases inside with
      | nil => exact ⟨[], by rw [whole, List.append_nil, List.append_nil]⟩
      | cons d inside =>
        obtain ⟨rfl, second⟩ := List.cons.inj split
        cases inside with
        | nil =>
          obtain ⟨body, ends⟩ := shape.last
          rw [whole] at ends
          have last := (List.append_inj' ends rfl).2
          cases last
        | cons d inside =>
          obtain ⟨rfl, -⟩ := List.cons.inj second
          exact absurd (by rw [whole]; simp) shape.no_i

theorem OnlyEqualities.spread {lead rest : Text} (middle : Text) (n : Nat)
    (equalities : OnlyEqualities (lead ++ (middle ++ rest))) :
    OnlyEqualities (lead ++ (inPlaceholders n ++ rest)) := by
  rintro other comparison ⟨before, after, whole⟩
  rw [List.append_assoc] at whole
  rcases comparison.shape.append_cases whole.symm with ⟨r, rfl⟩ | ⟨between, -, rfl⟩
  · exact equalities other comparison ⟨before, r ++ (middle ++ rest), by simp⟩
  · exact equalities other comparison ⟨lead ++ (middle ++ between), after, by simp⟩

theorem Cut.spread {query first test gap : Text} {tail : List (Text × Text)} (n : Nat)
    (cut : Cut query first ((test, gap) :: tail)) :
    Cut (first.trimEnd ++ (inPlaceholders n ++ (gap ++ joinTests tail)))
      (first.trimEnd ++ inPlaceholders n ++ gap) tail := by
  obtain ⟨_, whole, earliest, rest⟩ := cons_iff.1 cut
  obtain ⟨w, -, split⟩ := first.exists_trimEnd_append
  rw [← List.append_assoc]
  refine rest.prepend (first.trimEnd ++ inPlaceholders n) ?_
  intro before test' after membership same
  rw [List.append_assoc] at same
  rcases membership.shape.append_cases same with ⟨r, inside⟩ | ⟨between, rfl, -⟩
  · -- A test before the first one.
    have place := earliest before test' (r ++ (w ++ (test ++ (gap ++ joinTests tail)))) membership
      (by rw [whole, split, inside]; simp)
    obtain ⟨body, rfl, -⟩ := membership.exists_cons
    have bound := congrArg List.length split
    rw [inside] at bound
    simp only [List.length_append, List.length_cons] at bound
    omega
  · simp only [List.length_append]
    omega

/-! ## The loop -/

theorem spreadTests_append (lead : Text) (n : Nat) (gap : Text) (tail : List (Text × Text))
    (lists : List (List Cell)) :
    spreadTests (lead ++ inPlaceholders n ++ gap) tail lists =
      lead ++ (inPlaceholders n ++ spreadTests gap tail lists) := by
  cases tail with
  | nil => simp [spreadTests]
  | cons p tail =>
    cases lists with
    | nil => simp [spreadTests]
    | cons items lists =>
      rw [spreadTests, spreadTests, trimEnd_append_inPlaceholders]
      simp only [List.append_assoc]

theorem spreadTests_nil (first : Text) (tail : List (Text × Text)) :
    spreadTests first tail [] = first ++ joinTests tail := by
  cases tail <;> rfl

/-- The loop over the rewritten query spreads the tests of the given one, each with the list of
its number, and stops at the first test that has none. -/
theorem spreadLists_eq {query first : Text} {tail : List (Text × Text)} (params : List Param)
    (cut : Cut query first tail) (equalities : OnlyEqualities query) :
    spreadLists query params =
      if tail.length ≤ (listItems params).length then
        .ok (spreadTests first tail (listItems params), spreadFirst tail.length params)
      else .error (.noListLeft (spreadTests first tail (listItems params))) := by
  induction tail generalizing query first params with
  | nil =>
    rw [spreadLists, findMembership?_of_nil cut]
    simp [spreadTests, cut.whole, spreadFirst_zero]
  | cons p tail ih =>
    obtain ⟨test, gap⟩ := p
    rw [spreadLists, findMembership?_of_cons cut equalities]
    simp only
    split
    next none =>
      rw [listItems_of_splitList?_none none, spreadTests_nil, ← cut.whole]
      rfl
    next left items right split =>
      obtain ⟨-, whole, -, -⟩ := Cut.cons_iff.1 cut
      obtain ⟨w, -, trimmed⟩ := first.exists_trimEnd_append
      have left' : OnlyEqualities (first.trimEnd ++
          (inPlaceholders items.length ++ (gap ++ joinTests tail))) := by
        refine OnlyEqualities.spread (w ++ test) items.length ?_
        rwa [List.append_assoc, ← List.append_assoc, ← trimmed, ← whole]
      rw [List.append_assoc, ih _ (cut.spread items.length) left', spreadTests_append,
        listItems_of_splitList?_some split, List.length_cons, List.length_cons,
        spreadFirst_of_splitList? tail.length split]
      simp only [spreadTests, Nat.add_le_add_iff_right]

theorem cut_spreadTests {query first : Text} {tail : List (Text × Text)} {lists : List (List Cell)}
    (cut : Cut query first tail) (enough : tail.length ≤ lists.length) :
    Cut (spreadTests first tail lists) (spreadTests first tail lists) [] := by
  induction tail generalizing query first lists with
  | nil =>
    have whole := cut.whole
    rw [joinTests_nil, List.append_nil] at whole
    rw [whole] at cut
    simpa [spreadTests] using cut
  | cons p tail ih =>
    obtain ⟨test, gap⟩ := p
    cases lists with
    | nil => simp at enough
    | cons items lists =>
      have later := ih (cut.spread items.length) (Nat.le_of_succ_le_succ enough)
      rw [spreadTests_append] at later
      exact later

theorem expandAny_of_onlyEqualities {query first : Text} {tail : List (Text × Text)}
    (params : List Param) (cut : Cut query first tail) (equalities : OnlyEqualities query) :
    expandAny query params =
      if tail.length ≤ (listItems params).length then
        .ok (spreadTests first tail (listItems params), spreadFirst tail.length params)
      else .error (.noListLeft (spreadTests first tail (listItems params))) := by
  rw [expandAny, findOtherAny?_eq_none_iff.2 equalities]
  exact spreadLists_eq params cut equalities

theorem expandAny_of_otherComparison {query other : Text} (params : List Param)
    (comparison : OtherComparison other) (inside : other <:+: query) :
    ∃ found, expandAny query params = .error (.unsupportedComparison found query) := by
  unfold expandAny
  split
  next found _ => exact ⟨found, rfl⟩
  next missing => exact absurd inside (findOtherAny?_eq_none_iff.1 missing other comparison)

theorem expandAny_eq_ok {query query' : Text} {params params' : List Param}
    (spread : expandAny query params = .ok (query', params')) :
    ∃ first tail, Cut query first tail ∧ OnlyEqualities query ∧
      tail.length ≤ (listItems params).length ∧
      query' = spreadTests first tail (listItems params) ∧
      params' = spreadFirst tail.length params := by
  have cut := cut_cutTests query
  have equalities : OnlyEqualities query := by
    intro other comparison inside
    obtain ⟨found, refused⟩ := expandAny_of_otherComparison params comparison inside
    rw [refused] at spread
    cases spread
  rw [expandAny_of_onlyEqualities params cut equalities] at spread
  split at spread
  next enough =>
    cases spread
    exact ⟨_, _, cut, equalities, enough, rfl, rfl⟩
  next => cases spread

/-- A query is cut at its membership tests in one way. It is refused if it has another comparison
or more tests than there are lists, and otherwise every test is spread with the list of its
number, and no test is left. -/
theorem expandAny_eq_one_pass (query : Text) (params : List Param) :
    ∃ first tail, Cut query first tail ∧
      (∀ first' tail', Cut query first' tail' → first' = first ∧ tail' = tail) ∧
      ((∃ other, OtherComparison other ∧ other <:+: query) ∨
          (listItems params).length < tail.length →
        ∃ reason, (expandAny query params).mapError Mismatch.toFault =
          .error (.translation reason)) ∧
      (¬((∃ other, OtherComparison other ∧ other <:+: query) ∨
          (listItems params).length < tail.length) →
        expandAny query params =
          .ok (spreadTests first tail (listItems params), spreadFirst tail.length params) ∧
        ∀ test, MembershipTest test → ¬test <:+: spreadTests first tail (listItems params)) := by
  have cut := cut_cutTests query
  refine ⟨_, _, cut, fun first' tail' cut' => cut'.unique cut, ?_, ?_⟩
  · intro refused
    by_cases equalities : OnlyEqualities query
    · have short : ¬(cutTests query).2.length ≤ (listItems params).length := by
        rcases refused with ⟨other, comparison, inside⟩ | short
        · exact absurd inside (equalities other comparison)
        · omega
      rw [expandAny_of_onlyEqualities params cut equalities, if_neg short]
      exact ⟨_, rfl⟩
    · simp only [OnlyEqualities, not_forall, not_not] at equalities
      obtain ⟨other, comparison, inside⟩ := equalities
      obtain ⟨found, same⟩ := expandAny_of_otherComparison params comparison inside
      rw [same]
      exact ⟨_, rfl⟩
  · intro accepted
    have equalities : OnlyEqualities query :=
      fun other comparison inside => accepted (Or.inl ⟨other, comparison, inside⟩)
    have enough : (cutTests query).2.length ≤ (listItems params).length :=
      Nat.le_of_not_lt fun short => accepted (Or.inr short)
    refine ⟨by rw [expandAny_of_onlyEqualities params cut equalities, if_pos enough], ?_⟩
    rintro test membership ⟨before, after, whole⟩
    rw [List.append_assoc] at whole
    exact (Cut.nil_iff.1 (cut_spreadTests cut enough)).2 before test after membership whole.symm

/-- Two tests back to back, the first at the beginning of the query, in mixed spellings and with
an empty list, among scalars. -/
theorem expandAny_eq_one_pass_back_to_back :
    expandAny " =\tANY(%\u017f) = any ( %S ) = %s"
        [.scalar (.bool true), .list [], .scalar .null, .list [.null, .bool false], .list []] =
      .ok (" IN () IN (?, ?) = %s",
        [.scalar (.bool true), .scalar .null, .scalar .null, .scalar (.bool false), .list []]) := by
  obtain ⟨first, tail, cut, -, -, spread⟩ := expandAny_eq_one_pass
    " =\tANY(%\u017f) = any ( %S ) = %s"
    [.scalar (.bool true), .list [], .scalar .null, .list [.null, .bool false], .list []]
  obtain ⟨rfl, rfl⟩ := cut.unique (cut_cutTests _)
  have two : (cutTests " =\tANY(%\u017f) = any ( %S ) = %s").2.length = 2 := by decide +kernel
  have plain : findOtherAny? " =\tANY(%\u017f) = any ( %S ) = %s" = none := by decide +kernel
  obtain ⟨same, -⟩ := spread (by
    rintro (⟨other, comparison, inside⟩ | short)
    · exact findOtherAny?_eq_none_iff.1 plain other comparison inside
    · rw [two] at short
      exact absurd short (by decide))
  have text : spreadTests (cutTests " =\tANY(%\u017f) = any ( %S ) = %s").1
      (cutTests " =\tANY(%\u017f) = any ( %S ) = %s").2 [[], [.null, .bool false], []] =
        " IN () IN (?, ?) = %s" := by decide +kernel
  rw [same, two]
  exact congrArg Except.ok (Prod.ext text rfl)

end SqlDialect

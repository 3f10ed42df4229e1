import SqlDialect.Proofs.Query.Outcome
import SqlDialect.Proofs.Query.Phrase

/-! Lists and the placeholders they are given for.

Spreading pairs the tests of a query with the lists among its parameters by their order alone, and
only their numbers are compared. So a query that goes through has its lists at its tests if none is
given to another placeholder, and nothing refuses one that is.
-/

set_option autoImplicit false

namespace SqlDialect

open Text (Blank)

/-- The placeholders of a query in the order of the text: whether each stands in a membership
test. -/
def placeholders (query : Text) : List Bool :=
  match query with
  | [] => []
  | c :: r =>
    match _h : afterTest? (c :: r) with
    | some after => true :: placeholders after
    | none =>
      match c, r with
      | '%', 's' :: r => false :: placeholders r
      | '%', '%' :: r => placeholders r
      | _, r => placeholders r
termination_by query.length
decreasing_by
  · exact length_afterTest?_lt _h
  all_goals simp only [List.length_cons]; omega

/-- The values that each placeholder takes off the values bound to the question marks: one, or as
many as the next list has elements if it stands in a test. -/
def shares : List Bool → List (List Cell) → List Cell → List (List Cell)
  | [], _, _ => []
  | false :: marks, lists, cells => cells.take 1 :: shares marks lists (cells.drop 1)
  | true :: marks, items :: lists, cells =>
    cells.take items.length :: shares marks lists (cells.drop items.length)
  | true :: marks, [], cells => [] :: shares marks [] cells

/-! ## Tests in a text -/

theorem length_cutTests_of_none {c : Char} {r : Text} (missing : afterTest? (c :: r) = none) :
    (cutTests (c :: r)).2.length = (cutTests r).2.length := by
  rw [cutTests]
  split
  next found => rw [missing] at found; cases found
  next => rfl

theorem length_cutTests_of_some {c : Char} {r after : Text}
    (read : afterTest? (c :: r) = some after) :
    (cutTests (c :: r)).2.length = (cutTests after).2.length + 1 := by
  rw [cutTests]
  split
  next after' found =>
    rw [read] at found
    cases found
    rfl
  next missing => rw [read] at missing; cases missing

theorem afterTest?_of_ne {c : Char} (r : Text) (other : c ≠ '=') : afterTest? (c :: r) = none := by
  rw [afterTest?, if_neg other]

theorem length_cutTests_append_of_not_mem {lead : Text} (r : Text) (plain : '=' ∉ lead) :
    (cutTests (lead ++ r)).2.length = (cutTests r).2.length := by
  induction lead with
  | nil => rfl
  | cons c lead ih =>
    have other := List.ne_of_not_mem_cons plain
    rw [List.cons_append, length_cutTests_of_none (afterTest?_of_ne _ other.symm),
      ih (List.not_mem_of_not_mem_cons plain)]

theorem length_cutTests_append {test : Text} (membership : MembershipTest test) (r : Text) :
    (cutTests (test ++ r)).2.length = (cutTests r).2.length + 1 := by
  have read : afterTest? (test ++ r) = some r := afterTest?_eq_some_iff.2 ⟨test, membership, rfl⟩
  obtain ⟨rest, rfl, -⟩ := membership.exists_cons
  exact length_cutTests_of_some read

theorem length_cutTests_le_cons (c : Char) (r : Text) :
    (cutTests r).2.length ≤ (cutTests (c :: r)).2.length := by
  cases read : afterTest? (c :: r) with
  | none => exact Nat.le_of_eq (length_cutTests_of_none read).symm
  | some after =>
    obtain ⟨test, membership, whole⟩ := afterTest?_eq_some_iff.1 read
    obtain ⟨body, rfl, plain⟩ := membership.exists_cons
    obtain ⟨-, same⟩ := List.cons.inj whole
    have inside : (cutTests r).2.length = (cutTests after).2.length := by
      rw [same]
      exact length_cutTests_append_of_not_mem after plain
    rw [length_cutTests_of_some read, inside]
    exact Nat.le_succ _

theorem count_placeholders (query : Text) :
    (placeholders query).count true = (cutTests query).2.length := by
  fun_induction placeholders query with
  | case1 =>
    rw [cutTests]
    rfl
  | case2 c r after read ih => rw [List.count_cons_self, ih, length_cutTests_of_some read]
  | case3 r read ih =>
    rw [List.count_cons_of_ne (by decide), ih, length_cutTests_of_none read,
      length_cutTests_of_none (afterTest?_of_ne _ (by decide))]
  | case4 r read ih =>
    rw [ih, length_cutTests_of_none read,
      length_cutTests_of_none (afterTest?_of_ne _ (by decide))]
  | case5 c r read _ _ ih => rw [ih, length_cutTests_of_none read]

/-! ## Hints -/

namespace NullsOrder

variable {order : NullsOrder} {s r : Text}

-- A hint begins with white space, and its first letter is an n.
theorem head_of_after? (read : order.after? s = some r) :
    ∃ c t n u, isBlank c = true ∧ s = c :: t ∧ Text.dropBlank t = n :: u ∧ n ∈ ['n', 'N'] := by
  simp only [after?, Option.bind_eq_bind, Option.bind_eq_some_iff] at read
  obtain ⟨s₁, blanks, s₂, word, -⟩ := read
  obtain ⟨c, t, white, rfl, rfl⟩ := Phrase.exists_of_blanks? blanks
  obtain ⟨n, u, agrees, -, same⟩ := Phrase.word?_cons_eq_some_iff.1 word
  exact ⟨c, t, n, u, white, rfl, same, agreesWith_n_iff.1 agrees⟩

theorem erase_cons_of_visible {c : Char} (s : Text) (visible : isBlank c = false) :
    order.phrase.erase (c :: s) = c :: order.phrase.erase s := by
  refine Phrase.erase_cons_of_none (Option.eq_none_iff_forall_ne_some.2 fun r read => ?_)
  obtain ⟨b, t, n, u, white, same, -⟩ := head_of_after? read
  obtain ⟨rfl, -⟩ := List.cons.inj same
  rw [visible] at white
  cases white

theorem erase_blank_append {w : Text} {c : Char} (s : Text) (blank : Blank w)
    (visible : isBlank c = false) (other : c ∉ ['n', 'N']) :
    order.phrase.erase (w ++ c :: s) = w ++ c :: order.phrase.erase s := by
  induction w with
  | nil => exact erase_cons_of_visible s visible
  | cons b w ih =>
    have blank' : Blank w := fun d mem => blank d (List.mem_cons_of_mem _ mem)
    rw [List.cons_append, List.cons_append, ← ih blank']
    refine Phrase.erase_cons_of_none (Option.eq_none_iff_forall_ne_some.2 fun r read => ?_)
    obtain ⟨b', t, n, u, -, same, dropped, letter⟩ := head_of_after? read
    obtain ⟨-, rfl⟩ := List.cons.inj same
    rw [Text.dropBlank_eq_cons_iff.2 ⟨visible, w, blank', rfl⟩] at dropped
    obtain ⟨rfl, -⟩ := List.cons.inj dropped
    exact other letter

theorem erase_test_append {test : Text} (s : Text) (membership : MembershipTest test) :
    order.phrase.erase (test ++ s) = test ++ order.phrase.erase s := by
  obtain ⟨hw, ha, hn, hy, hx, hBefore, hInside, hAfter⟩ := membership
  rename_i w a n y x before inside after
  have other : a ∉ ['n', 'N'] := by
    simp only [List.mem_cons, List.not_mem_nil, or_false] at ha
    rcases ha with rfl | rfl <;> decide
  have visible_n : isBlank n = false := Text.isBlank_eq_false_of_all (by decide) hn
  have visible_y : isBlank y = false := Text.isBlank_eq_false_of_all (by decide) hy
  have visible_x : isBlank x = false := Text.isBlank_eq_false_of_all (by decide) hx
  simp only [List.cons_append, List.append_assoc, List.nil_append]
  rw [erase_cons_of_visible _ (by decide),
    erase_blank_append _ hw (isBlank_eq_false_of_mem_a ha) other,
    erase_cons_of_visible _ visible_n, erase_cons_of_visible _ visible_y,
    erase_blank_append _ hBefore (by decide) (by decide),
    erase_blank_append _ hInside (by decide) (by decide),
    erase_cons_of_visible _ visible_x,
    erase_blank_append _ hAfter (by decide) (by decide)]

/-- Taking a hint out of a query takes no test from it. -/
theorem length_cutTests_le_erase (s : Text) :
    (cutTests s).2.length ≤ (cutTests (order.phrase.erase s)).2.length := by
  fun_induction Phrase.erase order.phrase s with
  | case1 => exact Nat.le_refl _
  | case2 c s r read ih =>
    obtain ⟨lead, whole, plain⟩ := (Phrase.passes_nullsOrder read).exists_append ['=']
      (by decide) (by decide)
    rw [whole, length_cutTests_append_of_not_mem r (plain '=' List.mem_cons_self)]
    exact ih
  | case3 c s missing ih =>
    cases read : afterTest? (c :: s) with
    | none =>
      rw [length_cutTests_of_none read]
      exact Nat.le_trans ih (length_cutTests_le_cons c _)
    | some after =>
      obtain ⟨test, membership, whole⟩ := afterTest?_eq_some_iff.1 read
      have erased : c :: order.phrase.erase s = test ++ order.phrase.erase after := by
        rw [← Phrase.erase_cons_of_none missing, whole, erase_test_append after membership]
      obtain ⟨body, rfl, plain⟩ := membership.exists_cons
      rw [List.cons_append] at whole erased
      obtain ⟨rfl, rfl⟩ := List.cons.inj whole
      obtain ⟨-, same⟩ := List.cons.inj erased
      rw [same, length_cutTests_append_of_not_mem after plain,
        length_cutTests_append_of_not_mem _ plain] at ih
      rw [length_cutTests_of_some read, erased, ← List.cons_append,
        length_cutTests_append membership]
      exact Nat.succ_le_succ ih

end NullsOrder

theorem length_cutTests_le_stripNullsOrder (query : Text) :
    (cutTests query).2.length ≤ (cutTests (stripNullsOrder query).1).2.length := by
  unfold stripNullsOrder
  split
  next => exact NullsOrder.length_cutTests_le_erase query
  next =>
    split
    next => exact NullsOrder.length_cutTests_le_erase query
    next => exact Nat.le_refl _

/-! ## Lists at their tests -/

theorem countP_isList_le_count {params : List Param} {marks : List Bool}
    (same : marks.length = params.length)
    (own : ∀ pair ∈ params.zip marks, pair.1.isList = true → pair.2 = true) :
    params.countP Param.isList ≤ marks.count true := by
  induction params generalizing marks with
  | nil => exact Nat.zero_le _
  | cons p params ih =>
    cases marks with
    | nil => cases same
    | cons mark marks =>
      obtain ⟨here, later⟩ := List.forall_mem_cons.1 own
      have below := ih (Nat.succ.inj same) later
      rw [List.countP_cons, List.count_cons]
      cases kind : p.isList with
      | false =>
        rw [if_neg (by decide), Nat.add_zero]
        exact Nat.le_add_right_of_le below
      | true =>
        obtain rfl : mark = true := here kind
        exact Nat.succ_le_succ below

theorem map_isList_eq {params : List Param} {marks : List Bool}
    (same : marks.length = params.length)
    (own : ∀ pair ∈ params.zip marks, pair.1.isList = true → pair.2 = true)
    (enough : marks.count true ≤ params.countP Param.isList) :
    params.map Param.isList = marks := by
  induction params generalizing marks with
  | nil => exact (List.eq_nil_of_length_eq_zero same).symm
  | cons p params ih =>
    cases marks with
    | nil => cases same
    | cons mark marks =>
      obtain ⟨here, later⟩ := List.forall_mem_cons.1 own
      have below := countP_isList_le_count (Nat.succ.inj same) later
      rw [List.countP_cons, List.count_cons] at enough
      rw [List.map_cons]
      cases kind : p.isList with
      | false =>
        rw [kind] at enough
        cases mark with
        | false => rw [ih (Nat.succ.inj same) later enough]
        | true => exact absurd (Nat.lt_of_succ_le enough) (Nat.not_lt_of_le below)
      | true =>
        obtain rfl : mark = true := here kind
        rw [kind] at enough
        rw [ih (Nat.succ.inj same) later (Nat.le_of_succ_le_succ enough)]

theorem shares_map_isList (params : List Param) :
    shares (params.map Param.isList) (listItems params) (params.flatMap Param.cells) =
      params.map Param.cells := by
  induction params with
  | nil => rfl
  | cons p params ih =>
    cases p with
    | scalar c =>
      rw [List.map_cons, List.map_cons, List.flatMap_cons, listItems]
      exact congrArg _ ih
    | list items =>
      rw [List.map_cons, List.map_cons, List.flatMap_cons, listItems]
      simp only [Param.isList, Param.cells, shares, List.take_left, List.drop_left]
      exact congrArg _ ih

/-- If no list is given to a placeholder outside the tests, a query that goes through has its lists
at exactly its tests, and every placeholder takes the values that were given for it. -/
theorem massage_aligned {query : Text} {params : List Param} {massaged : Massaged}
    (through : massage query params = .ok massaged)
    (each : (placeholders query).length = params.length)
    (own : ∀ pair ∈ params.zip (placeholders query), pair.1.isList = true → pair.2 = true) :
    params.map Param.isList = placeholders query ∧
      shares (placeholders query) (listItems params) massaged.cells = params.map Param.cells := by
  obtain ⟨used, kept⟩ := massage_eq_ok through
  have enough : (placeholders query).count true ≤ params.countP Param.isList := by
    rw [count_placeholders, used]
    exact length_cutTests_le_stripNullsOrder query
  have aligned := map_isList_eq each own enough
  refine ⟨aligned, ?_⟩
  rw [kept, ← aligned]
  exact shares_map_isList params

/-- A query with both kinds of placeholders, and a hint. -/
theorem massage_aligned_both_kinds :
    (∀ pair ∈ [Param.scalar (.bool true), .list [.null, .bool false]].zip
        (placeholders "SELECT a FROM t WHERE a = %s AND b = ANY (%s) ORDER BY a NULLS LAST"),
      pair.1.isList = true → pair.2 = true) ∧
    ∃ massaged, massage "SELECT a FROM t WHERE a = %s AND b = ANY (%s) ORDER BY a NULLS LAST"
        [.scalar (.bool true), .list [.null, .bool false]] = .ok massaged ∧
      shares [false, true] [[.null, .bool false]] massaged.cells =
        [[.bool true], [.null, .bool false]] := by
  have marks : placeholders "SELECT a FROM t WHERE a = %s AND b = ANY (%s) ORDER BY a NULLS LAST" =
      [false, true] := by decide +kernel
  have own : ∀ pair ∈ [Param.scalar (.bool true), .list [.null, .bool false]].zip
        (placeholders "SELECT a FROM t WHERE a = %s AND b = ANY (%s) ORDER BY a NULLS LAST"),
      pair.1.isList = true → pair.2 = true := by
    rw [marks]
    simp [Param.isList]
  refine ⟨own, ?_⟩
  have succeeds : (massage "SELECT a FROM t WHERE a = %s AND b = ANY (%s) ORDER BY a NULLS LAST"
      [.scalar (.bool true), .list [.null, .bool false]]).isOk = true := by decide +kernel
  generalize through : massage _ _ = outcome at succeeds ⊢
  cases outcome with
  | error mismatch => cases succeeds
  | ok massaged =>
    obtain ⟨-, same⟩ := massage_aligned through (by rw [marks]; rfl) own
    rw [marks] at same
    exact ⟨massaged, rfl, same⟩

/-- A list for the placeholder before the test: its first element alone is compared there, and the
second one goes into the test, with the scalar that was given for it. -/
theorem massage_misaligned :
    placeholders "SELECT * FROM t WHERE a = %s AND b = ANY (%s)" = [false, true] ∧
    [Param.list [.int 1, .int 2], .scalar (.int 3)].map Param.isList = [true, false] ∧
    ∃ massaged, massage "SELECT * FROM t WHERE a = %s AND b = ANY (%s)"
        [.list [.int 1, .int 2], .scalar (.int 3)] = .ok massaged ∧
      massaged.query = "SELECT * FROM t WHERE a = ? AND b IN ( ? , ? )" ∧
      massaged.cells = [.int 1, .int 2, .int 3] := by
  refine ⟨by decide +kernel, rfl, ?_⟩
  have text : (massage "SELECT * FROM t WHERE a = %s AND b = ANY (%s)"
      [.list [.int 1, .int 2], .scalar (.int 3)]).toOption.map Massaged.query =
        some ("SELECT * FROM t WHERE a = ? AND b IN ( ? , ? )" : Text) := by decide +kernel
  generalize through : massage _ _ = outcome at text ⊢
  cases outcome with
  | error mismatch => cases text
  | ok massaged =>
    exact ⟨massaged, rfl, Option.some.inj text, (massage_eq_ok through).2⟩

end SqlDialect

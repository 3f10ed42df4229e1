import SqlDialect.Proofs.Query.Outcome
import SqlDialect.Proofs.Query.Placeholder
import SqlDialect.Proofs.Rule.Weight
import SqlDialect.Proofs.Token.Join

/-! Question marks of a query, counted.

A query has a question mark for each value only if spreading a list writes one for each element,
and no rule brings one in or takes one away. A placeholder is read in two ways, as part of a
membership test and by itself; the two agree where the percent sign has no capital or long s after
it.
-/

set_option autoImplicit false

namespace SqlDialect

open Token (weigh)

/-- The question marks of a query after its placeholders have become question marks. -/
def questionMarks (query : Text) : Nat := (convertPlaceholders query .question).count '?'

/-- No percent sign has a capital or a long s after it. -/
def SmallLetters (query : Text) : Prop := ¬['%', 'S'] <:+: query ∧ ¬['%', '\u017f'] <:+: query

instance (query : Text) : Decidable (SmallLetters query) := inferInstanceAs (Decidable (_ ∧ _))

theorem SmallLetters.of_infix {query part : Text} (small : SmallLetters query)
    (inside : part <:+: query) : SmallLetters part :=
  ⟨fun found => small.1 (found.trans inside), fun found => small.2 (found.trans inside)⟩

/-! ## Parts of a query -/

theorem questionMarks_append {s t : Text}
    (apart : s.getLast? = some '%' → ∀ c ∈ t.head?, c ≠ 's' ∧ c ≠ '%') :
    questionMarks (s ++ t) = questionMarks s + questionMarks t := by
  unfold questionMarks convertPlaceholders
  rw [convertFrom_append 1 apart, List.count_append]

theorem questionMarks_append_of_not_mem {s : Text} (t : Text) (unsigned : '%' ∉ s) :
    questionMarks (s ++ t) = s.count '?' + questionMarks t := by
  rw [questionMarks_append fun end? => absurd (List.mem_of_getLast? end?) unsigned, questionMarks,
    convertPlaceholders_of_not_mem unsigned]

theorem questionMarks_placeholder (s : Text) :
    questionMarks ('%' :: 's' :: s) = 1 + questionMarks s := by
  unfold questionMarks convertPlaceholders
  rw [convertFrom, List.count_append, convertFrom_question (1 + 1) 1]
  rfl

/-! ## Tests and what is written for them -/

theorem count_inPlaceholders (n : Nat) : (inPlaceholders n).count '?' = n := by
  have list : (List.intercalate [',', ' '] (List.replicate n ['?'])).count '?' = n := by
    induction n with
    | zero => rfl
    | succ n ih =>
      cases n with
      | zero => rfl
      | succ n =>
        rw [List.replicate_succ, List.replicate_succ, List.intercalate_cons_cons,
          ← List.replicate_succ, List.count_append, List.count_append, ih]
        exact Nat.add_comm 1 (n + 1)
  have parts : inPlaceholders n =
      " IN (" ++ List.intercalate [',', ' '] (List.replicate n ['?']) ++ [')'] := rfl
  have opening : (" IN (" : Text).count '?' = 0 := by decide
  rw [parts, List.count_append, List.count_append, list, opening]
  simp

theorem questionMarks_inPlaceholders_append (n : Nat) (s : Text) :
    questionMarks (inPlaceholders n ++ s) = n + questionMarks s := by
  have unsigned : '%' ∉ inPlaceholders n := by
    obtain ⟨inside, whole, own⟩ := exists_inPlaceholders_eq n
    have absent : '%' ∉ inside := fun mem => absurd (own _ mem) (by decide)
    rw [whole]
    simpa using absent
  rw [questionMarks_append_of_not_mem s unsigned, count_inPlaceholders]

theorem questionMarks_test_append {test : Text} (membership : MembershipTest test)
    (small : SmallLetters test) (s : Text) :
    questionMarks (test ++ s) = 1 + questionMarks s := by
  cases membership with
  | @intro w _ hw placeholder =>
  cases placeholder with
  | @intro a n y x before inside after ha hn hy hx hBefore hInside hAfter =>
    let opening := '=' :: (w ++ ([a, n, y] ++ (before ++ '(' :: inside)))
    have whole : '=' :: (w ++
        ([a, n, y] ++ (before ++ '(' :: (inside ++ ['%', x] ++ (after ++ [')']))))) =
        opening ++ (['%', x] ++ (after ++ [')'])) := by
      simp [opening]
    have letter : x = 's' := by
      rw [whole] at small
      have found : ['%', x] <:+: opening ++ (['%', x] ++ (after ++ [')'])) :=
        ⟨opening, after ++ [')'], by simp⟩
      simp only [List.mem_cons, List.not_mem_nil, or_false] at hx
      rcases hx with rfl | rfl | rfl
      · rfl
      · exact absurd found small.1
      · exact absurd found small.2
    have absent (c : Char) (mem : c ∈ ['%', '?']) : c ∉ opening ∧ c ∉ after ++ [')'] := by
      have visible : isBlank c = false := Text.isBlank_eq_false_of_all (by decide) mem
      have := hw.not_mem visible
      have := hBefore.not_mem visible
      have := hInside.not_mem visible
      have := hAfter.not_mem visible
      simp only [opening, List.mem_cons, List.mem_append, List.not_mem_nil, or_false] at *
      grind
    have sign := absent '%' (by decide)
    have mark := absent '?' (by decide)
    rw [whole, letter, List.append_assoc, List.append_assoc,
      questionMarks_append_of_not_mem _ sign.1, List.count_eq_zero_of_not_mem mark.1, Nat.zero_add,
      List.cons_append, List.cons_append, List.nil_append, questionMarks_placeholder,
      questionMarks_append_of_not_mem _ sign.2, List.count_eq_zero_of_not_mem mark.2, Nat.zero_add]

theorem questionMarks_trimEnd (s : Text) : questionMarks s.trimEnd = questionMarks s := by
  obtain ⟨w, blank, split⟩ := s.exists_trimEnd_append
  have apart : ∀ c ∈ w.head?, c ≠ 's' ∧ c ≠ '%' := by
    intro c first
    have white := blank c (List.mem_of_mem_head? first)
    constructor <;> rintro rfl <;> exact absurd white (by decide)
  have none : questionMarks w = 0 := by
    have plain := questionMarks_append_of_not_mem [] (blank.not_mem (c := '%') (by decide))
    rw [List.append_nil] at plain
    rw [plain, List.count_eq_zero_of_not_mem (blank.not_mem (by decide))]
    rfl
  conv_rhs => rw [split, questionMarks_append fun _ => apart, none, Nat.add_zero]

theorem questionMarks_spreadTests (first : Text) {tail : List (Text × Text)}
    {lists : List (List Cell)} (tests : ∀ p ∈ tail, MembershipTest p.1)
    (small : ∀ p ∈ tail, SmallLetters p.1)
    (enough : tail.length ≤ lists.length) :
    questionMarks (spreadTests first tail lists) + tail.length =
      questionMarks (first ++ joinTests tail) + (lists.take tail.length).flatten.length := by
  induction tail generalizing first lists with
  | nil => cases lists <;> rfl
  | cons p tail ih =>
    obtain ⟨test, gap⟩ := p
    cases lists with
    | nil => simp at enough
    | cons items lists =>
      obtain ⟨membership, tests⟩ := List.forall_mem_cons.1 tests
      obtain ⟨small₁, small⟩ := List.forall_mem_cons.1 small
      have rest := ih gap tests small (Nat.le_of_succ_le_succ enough)
      have written : questionMarks (first.trimEnd ++ (inPlaceholders items.length ++
          spreadTests gap tail lists)) =
          questionMarks first + (items.length + questionMarks (spreadTests gap tail lists)) := by
        rw [questionMarks_append, questionMarks_trimEnd, questionMarks_inPlaceholders_append]
        intro _ c first
        obtain ⟨inside, whole, -⟩ := exists_inPlaceholders_eq items.length
        rw [whole] at first
        cases first
        decide
      have given : questionMarks (first ++ (test ++ (gap ++ joinTests tail))) =
          questionMarks first + (1 + questionMarks (gap ++ joinTests tail)) := by
        rw [questionMarks_append, questionMarks_test_append membership small₁]
        intro _ c first
        obtain ⟨rest, rfl, -⟩ := membership.exists_cons
        cases first
        decide
      rw [spreadTests, written, joinTests_cons, given]
      simp only [List.length_cons, List.take_succ_cons, List.flatten_cons, List.length_append]
      omega

theorem length_spreadFirst {n : Nat} {params : List Param}
    (enough : n ≤ (listItems params).length) :
    (spreadFirst n params).length + n =
      params.length + ((listItems params).take n).flatten.length := by
  induction params generalizing n with
  | nil => cases n <;> simp [spreadFirst, listItems] at enough ⊢
  | cons p params ih =>
    cases n with
    | zero => simp [spreadFirst_zero]
    | succ n =>
      cases p with
      | scalar c =>
        have rest := ih enough
        simp only [spreadFirst, listItems, List.length_cons] at rest ⊢
        omega
      | list items =>
        have rest := ih (Nat.le_of_succ_le_succ enough)
        simp only [spreadFirst, listItems, List.length_append, List.length_map, List.length_cons,
          List.take_succ_cons, List.flatten_cons, List.length_append]
        omega

/-! ## Tokens and rules -/

def Token.occurrences (c : Char) (t : Token) : Nat := t.text.count c

theorem weigh_tokenize {c : Char} (visible : isBlank c = false) (s : Text) :
    weigh (Token.occurrences c) (tokenize s) = s.count c := by
  obtain ⟨pieces, last, cut⟩ := exists_segmentation s
  have kept (s : Text) : (s.filter (!isBlank ·)).count c = s.count c :=
    List.count_filter (by simp [visible])
  have counted (tokens : List Token) :
      (tokens.flatMap fun t => t.text.filter (!isBlank ·)).count c =
        weigh (Token.occurrences c) tokens := by
    induction tokens with
    | nil => rfl
    | cons t tokens ih =>
      rw [List.flatMap_cons, List.count_append, ih, kept, Token.weigh_cons]
      rfl
  rw [← counted, ← cut.tokens, cut.visible, kept]

theorem count_join {c : Char} (visible : c ≠ ' ') (tokens : List Token) :
    (Token.join tokens).count c = weigh (Token.occurrences c) tokens := by
  have spaced (tokens : List Token) : (Token.spaced tokens).count c =
      weigh (Token.occurrences c) tokens := by
    induction tokens with
    | nil => rfl
    | cons t tokens ih =>
      rw [Token.spaced_cons, List.count_append, List.count_append, ih, Token.weigh_cons,
        List.count_singleton, if_neg (by simpa using visible.symm), Nat.zero_add]
      rfl
  cases tokens with
  | nil => rfl
  | cons t tokens =>
    rw [Token.join_cons, List.count_append, spaced, Token.weigh_cons]
    rfl

theorem occurrences_of_agrees {c : Char} (sign : c.isAlpha = false) (a b : Token)
    (agrees : a.agrees b = true) : a.occurrences c = b.occurrences c := by
  have folded (s : Text) : s.fold.count c = s.count c := by
    unfold Text.fold List.count
    rw [List.countP_map]
    refine List.countP_congr fun d _ => ?_
    simp [toLower_eq_iff sign]
  unfold Token.occurrences
  rw [← folded, Text.agrees_iff.1 agrees, folded]

theorem balanced_queryRules : ∀ entry ∈ queryRules.entries,
    Rule.Balanced (Token.occurrences '?') entry.2 := by
  decide +kernel

theorem count_translateQuery (query : Text) :
    (translateQuery query).count '?' = questionMarks query := by
  calc (translateQuery query).count '?'
      = weigh (Token.occurrences '?')
          (queryRules.apply (tokenize (convertPlaceholders query .question))).1 :=
        count_join (by decide) _
    _ = weigh (Token.occurrences '?') (tokenize (convertPlaceholders query .question)) :=
        RuleTable.weigh_apply balanced_queryRules (occurrences_of_agrees (by decide)) _
    _ = questionMarks query := weigh_tokenize (by decide) _

/-- A query that is spread has as many question marks more than the query given as it has
parameters more, and translating it keeps them all. -/
theorem expandAny_keeps_surplus {query query' : Text} {params params' : List Param}
    (spread : expandAny query params = .ok (query', params'))
    (small : SmallLetters query) :
    (questionMarks query' : Int) - params'.length = questionMarks query - params.length ∧
      (translateQuery query').count '?' = questionMarks query' := by
  refine ⟨?_, count_translateQuery query'⟩
  obtain ⟨first, tail, cut, -, enough, rfl, rfl⟩ := expandAny_eq_ok spread
  have whole := cut.whole
  have small' : ∀ p ∈ tail, SmallLetters p.1 := by
    intro p mem
    refine small.of_infix ?_
    obtain ⟨done, left, rfl⟩ := List.append_of_mem mem
    refine ⟨first ++ joinTests done, p.2 ++ joinTests left, ?_⟩
    rw [whole]
    simp [joinTests]
  have marks := questionMarks_spreadTests first cut.tests small' enough
  have values := length_spreadFirst enough
  rw [← whole] at marks
  omega

/-- A percent sign before the white space that goes with a test, rules that move placeholders, and
a question mark in a literal. -/
theorem expandAny_keeps_surplus_lone_percent :
    expandAny "a%  = ANY (%s) AND b = MD5(%s) AND c LIKE '?%%'"
        [.list [.null, .null], .scalar .null] =
      .ok ("a% IN (?, ?) AND b = MD5(%s) AND c LIKE '?%%'",
        [.scalar .null, .scalar .null, .scalar .null]) ∧
    SmallLetters "a%  = ANY (%s) AND b = MD5(%s) AND c LIKE '?%%'" ∧
    (questionMarks "a% IN (?, ?) AND b = MD5(%s) AND c LIKE '?%%'" : Int) - 3 =
      questionMarks "a%  = ANY (%s) AND b = MD5(%s) AND c LIKE '?%%'" - 2 ∧
    (translateQuery "a% IN (?, ?) AND b = MD5(%s) AND c LIKE '?%%'").count '?' =
      questionMarks "a% IN (?, ?) AND b = MD5(%s) AND c LIKE '?%%'" := by
  have plain : findOtherAny? "a%  = ANY (%s) AND b = MD5(%s) AND c LIKE '?%%'" = none := by
    decide +kernel
  have one : (cutTests "a%  = ANY (%s) AND b = MD5(%s) AND c LIKE '?%%'").2.length = 1 := by
    decide +kernel
  have text : spreadTests (cutTests "a%  = ANY (%s) AND b = MD5(%s) AND c LIKE '?%%'").1
      (cutTests "a%  = ANY (%s) AND b = MD5(%s) AND c LIKE '?%%'").2 [[.null, .null]] =
        "a% IN (?, ?) AND b = MD5(%s) AND c LIKE '?%%'" := by decide +kernel
  have spread : expandAny "a%  = ANY (%s) AND b = MD5(%s) AND c LIKE '?%%'"
      [.list [.null, .null], .scalar .null] =
    .ok ("a% IN (?, ?) AND b = MD5(%s) AND c LIKE '?%%'",
      [.scalar .null, .scalar .null, .scalar .null]) := by
    rw [expandAny_of_onlyEqualities _ (cut_cutTests _) (findOtherAny?_eq_none_iff.1 plain), one]
    exact congrArg Except.ok (Prod.ext text rfl)
  have small : SmallLetters "a%  = ANY (%s) AND b = MD5(%s) AND c LIKE '?%%'" := by decide +kernel
  exact ⟨spread, small, expandAny_keeps_surplus spread small⟩

end SqlDialect

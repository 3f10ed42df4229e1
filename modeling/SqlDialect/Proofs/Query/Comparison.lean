import SqlDialect.Proofs.Text.Blank
import SqlDialect.Query.Membership

/-! The comparisons with a list that is given as one parameter, as a grammar.

A membership test is `= ANY (%s)`. The other comparisons put one of `!`, `<` and `>` before it,
or in place of its equals sign. The readers accept exactly the texts of the grammar.
-/

set_option autoImplicit false

namespace SqlDialect

open Text (Blank)

/-- `ANY (%s)`, letters in any case, with white space between its parts or none. The long s is
a letter s. -/
inductive AnyPlaceholder : Text → Prop where
  | intro {a n y s : Char} {before inside after : Text} :
      a ∈ ['a', 'A'] → n ∈ ['n', 'N'] → y ∈ ['y', 'Y'] → s ∈ ['s', 'S', '\u017f'] →
      Blank before → Blank inside → Blank after →
      AnyPlaceholder ([a, n, y] ++ (before ++ '(' :: (inside ++ ['%', s] ++ (after ++ [')']))))

inductive MembershipTest : Text → Prop where
  | intro {w list : Text} : Blank w → AnyPlaceholder list → MembershipTest ('=' :: (w ++ list))

/-- A comparison other than equality; the equals sign of `<=` and the like may stand apart. -/
inductive OtherComparison : Text → Prop where
  | sign {c : Char} {w list : Text} : c ∈ ['!', '<', '>'] → Blank w → AnyPlaceholder list →
      OtherComparison (c :: (w ++ list))
  | signEquals {c : Char} {w test : Text} : c ∈ ['!', '<', '>'] → Blank w →
      MembershipTest test → OtherComparison (c :: (w ++ test))

/-! ## Parts of a phrase -/

theorem Phrase.mark?_eq_some_iff {mark : Char} {s r : Text} :
    Phrase.mark? mark s = some r ↔ s = mark :: r := by
  cases s with
  | nil => simp [mark?]
  | cons c s =>
    by_cases same : c = mark
    · simp [mark?, same]
    · simp [mark?, same]

theorem Phrase.word?_cons_eq_some_iff {small : Char} {word s r : Text} :
    Phrase.word? (small :: word) s = some r ↔
      ∃ c t, agreesWith small c = true ∧ word? word t = some r ∧ s = c :: t := by
  cases s with
  | nil => simp [word?]
  | cons c s =>
    by_cases same : agreesWith small c = true
    · simp [word?, same]
    · simp [word?, same]

theorem agreesWith_a_iff {c : Char} : Phrase.agreesWith 'a' c = true ↔ c ∈ ['a', 'A'] := by
  simp [Phrase.agreesWith]

theorem agreesWith_n_iff {c : Char} : Phrase.agreesWith 'n' c = true ↔ c ∈ ['n', 'N'] := by
  simp [Phrase.agreesWith]

theorem agreesWith_y_iff {c : Char} : Phrase.agreesWith 'y' c = true ↔ c ∈ ['y', 'Y'] := by
  simp [Phrase.agreesWith]

theorem agreesWith_s_iff {c : Char} :
    Phrase.agreesWith 's' c = true ↔ c ∈ ['s', 'S', '\u017f'] := by
  simp [Phrase.agreesWith, or_assoc]

theorem agreesWith_percent_iff {c : Char} : Phrase.agreesWith '%' c = true ↔ c = '%' := by
  simp [Phrase.agreesWith]

theorem word?_any_eq_some_iff {s r : Text} :
    Phrase.word? "any" s = some r ↔
      ∃ a n y, a ∈ ['a', 'A'] ∧ n ∈ ['n', 'N'] ∧ y ∈ ['y', 'Y'] ∧ s = a :: n :: y :: r := by
  rw [show ("any" : Text) = ['a', 'n', 'y'] from rfl]
  constructor
  · intro read
    obtain ⟨a, s₁, ha, read₁, rfl⟩ := Phrase.word?_cons_eq_some_iff.1 read
    obtain ⟨n, s₂, hn, read₂, rfl⟩ := Phrase.word?_cons_eq_some_iff.1 read₁
    obtain ⟨y, s₃, hy, read₃, rfl⟩ := Phrase.word?_cons_eq_some_iff.1 read₂
    cases read₃
    exact ⟨a, n, y, agreesWith_a_iff.1 ha, agreesWith_n_iff.1 hn, agreesWith_y_iff.1 hy, rfl⟩
  · rintro ⟨a, n, y, ha, hn, hy, rfl⟩
    refine Phrase.word?_cons_eq_some_iff.2 ⟨a, _, agreesWith_a_iff.2 ha, ?_, rfl⟩
    refine Phrase.word?_cons_eq_some_iff.2 ⟨n, _, agreesWith_n_iff.2 hn, ?_, rfl⟩
    exact Phrase.word?_cons_eq_some_iff.2 ⟨y, _, agreesWith_y_iff.2 hy, rfl, rfl⟩

theorem word?_placeholder_eq_some_iff {s r : Text} :
    Phrase.word? "%s" s = some r ↔ ∃ x, x ∈ ['s', 'S', '\u017f'] ∧ s = '%' :: x :: r := by
  rw [show ("%s" : Text) = ['%', 's'] from rfl]
  constructor
  · intro read
    obtain ⟨p, s₁, hp, read₁, rfl⟩ := Phrase.word?_cons_eq_some_iff.1 read
    obtain ⟨x, s₂, hx, read₂, rfl⟩ := Phrase.word?_cons_eq_some_iff.1 read₁
    cases read₂
    exact ⟨x, agreesWith_s_iff.1 hx, by rw [agreesWith_percent_iff.1 hp]⟩
  · rintro ⟨x, hx, rfl⟩
    refine Phrase.word?_cons_eq_some_iff.2 ⟨'%', _, agreesWith_percent_iff.2 rfl, ?_, rfl⟩
    exact Phrase.word?_cons_eq_some_iff.2 ⟨x, _, agreesWith_s_iff.2 hx, rfl, rfl⟩

theorem isBlank_eq_false_of_mem_a {a : Char} (ha : a ∈ ['a', 'A']) : isBlank a = false := by
  simp only [List.mem_cons, List.not_mem_nil, or_false] at ha
  rcases ha with rfl | rfl <;> decide

/-! ## The readers accept the grammar -/

theorem afterAny?_eq_some_iff {s r : Text} :
    afterAny? s = some r ↔ ∃ w list, Blank w ∧ AnyPlaceholder list ∧ s = w ++ (list ++ r) := by
  simp only [afterAny?, Option.bind_eq_bind, Option.bind_eq_some_iff]
  constructor
  · rintro ⟨s₁, word, s₂, opening, s₃, placeholder, closing⟩
    obtain ⟨a, n, y, ha, hn, hy, dropped⟩ := word?_any_eq_some_iff.1 word
    obtain ⟨_, w, hw, rfl⟩ := Text.dropBlank_eq_cons_iff.1 dropped
    obtain ⟨_, before, hBefore, rfl⟩ :=
      Text.dropBlank_eq_cons_iff.1 (Phrase.mark?_eq_some_iff.1 opening)
    obtain ⟨x, hx, dropped⟩ := word?_placeholder_eq_some_iff.1 placeholder
    obtain ⟨_, inside, hInside, rfl⟩ := Text.dropBlank_eq_cons_iff.1 dropped
    obtain ⟨_, after, hAfter, rfl⟩ :=
      Text.dropBlank_eq_cons_iff.1 (Phrase.mark?_eq_some_iff.1 closing)
    exact ⟨w, _, hw, .intro ha hn hy hx hBefore hInside hAfter, by simp⟩
  · rintro ⟨w, _, hw, ⟨ha, hn, hy, hx, hBefore, hInside, hAfter⟩, rfl⟩
    rename_i a n y x before inside after
    refine ⟨before ++ '(' :: (inside ++ ['%', x] ++ (after ++ [')']) ++ r), ?_,
      inside ++ ['%', x] ++ (after ++ [')']) ++ r, ?_, after ++ [')'] ++ r, ?_, ?_⟩
    · refine word?_any_eq_some_iff.2 ⟨a, n, y, ha, hn, hy, ?_⟩
      exact Text.dropBlank_eq_cons_iff.2 ⟨isBlank_eq_false_of_mem_a ha, w, hw, by simp⟩
    · rw [Phrase.mark?_eq_some_iff]
      exact Text.dropBlank_eq_cons_iff.2 ⟨by decide, before, hBefore, by simp⟩
    · refine word?_placeholder_eq_some_iff.2 ⟨x, hx, ?_⟩
      exact Text.dropBlank_eq_cons_iff.2 ⟨by decide, inside, hInside, by simp⟩
    · rw [Phrase.mark?_eq_some_iff]
      exact Text.dropBlank_eq_cons_iff.2 ⟨by decide, after, hAfter, by simp⟩

theorem afterEqualsAny?_eq_some_iff {s r : Text} :
    afterEqualsAny? s = some r ↔ ∃ w test, Blank w ∧ MembershipTest test ∧ s = w ++ (test ++ r) := by
  simp only [afterEqualsAny?, Option.bind_eq_bind, Option.bind_eq_some_iff]
  constructor
  · rintro ⟨s₁, equals, read⟩
    obtain ⟨_, w, hw, rfl⟩ := Text.dropBlank_eq_cons_iff.1 (Phrase.mark?_eq_some_iff.1 equals)
    obtain ⟨between, list, hBetween, hList, rfl⟩ := afterAny?_eq_some_iff.1 read
    exact ⟨w, _, hw, .intro hBetween hList, by simp⟩
  · rintro ⟨w, _, hw, ⟨hBetween, hList⟩, rfl⟩
    rename_i between list
    refine ⟨between ++ (list ++ r), ?_, afterAny?_eq_some_iff.2 ⟨between, list, hBetween, hList, rfl⟩⟩
    rw [Phrase.mark?_eq_some_iff]
    exact Text.dropBlank_eq_cons_iff.2 ⟨by decide, w, hw, by simp⟩

theorem AnyPlaceholder.exists_cons {list : Text} (placeholder : AnyPlaceholder list) :
    ∃ a rest, a ∈ ['a', 'A'] ∧ list = a :: rest := by
  cases placeholder with
  | intro ha => exact ⟨_, _, ha, rfl⟩

theorem isOtherSign_iff {c : Char} : isOtherSign c = true ↔ c ∈ ['!', '<', '>'] := by
  simp [isOtherSign, or_assoc]

theorem afterOtherAny?_eq_some_iff {s r : Text} :
    afterOtherAny? s = some r ↔ ∃ other, OtherComparison other ∧ s = other ++ r := by
  constructor
  · intro read
    unfold afterOtherAny? at read
    split at read
    next => cases read
    next c s =>
      split at read
      next sign =>
        rw [isOtherSign_iff] at sign
        split at read
        next t dropped =>
          obtain ⟨_, w, hw, rfl⟩ := Text.dropBlank_eq_cons_iff.1 dropped
          obtain ⟨between, list, hBetween, hList, rfl⟩ := afterAny?_eq_some_iff.1 read
          exact ⟨_, .signEquals sign hw (.intro hBetween hList), by simp⟩
        next t _ =>
          obtain ⟨w, list, hw, hList, dropped⟩ := afterAny?_eq_some_iff.1 read
          have whole : s = Text.takeBlank s ++ w ++ list ++ r := by
            rw [List.append_assoc, List.append_assoc, ← dropped, Text.takeBlank_append_dropBlank]
          have blank : Blank (Text.takeBlank s ++ w) := by
            intro d mem
            exact (List.mem_append.1 mem).elim (Text.blank_takeBlank s d) (hw d)
          exact ⟨_, .sign sign blank hList, by rw [List.cons_append, ← whole]⟩
      next => cases read
  · rintro ⟨_, other, rfl⟩
    cases other with
    | @sign c w list sign hw hList =>
      obtain ⟨a, rest, ha, same⟩ := hList.exists_cons
      have dropped : Text.dropBlank (w ++ list ++ r) = a :: (rest ++ r) :=
        Text.dropBlank_eq_cons_iff.2 ⟨isBlank_eq_false_of_mem_a ha, w, hw, by simp [same]⟩
      have noEquals : a ≠ '=' := by
        rintro rfl
        exact absurd ha (by decide)
      rw [List.cons_append, afterOtherAny?, if_pos (isOtherSign_iff.2 sign), dropped]
      split
      next equals => exact absurd (List.cons.inj equals).1 noEquals
      next =>
        exact afterAny?_eq_some_iff.2 ⟨[], list, Text.blank_nil, hList, by simp [same]⟩
    | @signEquals c w test sign hw hTest =>
      cases hTest with
      | @intro between list hBetween hList =>
        have dropped : Text.dropBlank (w ++ '=' :: (between ++ list) ++ r) =
            '=' :: (between ++ (list ++ r)) :=
          Text.dropBlank_eq_cons_iff.2 ⟨by decide, w, hw, by simp⟩
        rw [List.cons_append, afterOtherAny?, if_pos (isOtherSign_iff.2 sign), dropped]
        exact afterAny?_eq_some_iff.2 ⟨between, list, hBetween, hList, rfl⟩

theorem findOtherAny?_eq_none_iff {query : Text} :
    findOtherAny? query = none ↔ ∀ other, OtherComparison other → ¬other <:+: query := by
  induction query with
  | nil =>
    refine ⟨fun _ other comparison inside => ?_, fun _ => rfl⟩
    rw [List.infix_nil.1 inside] at comparison
    cases comparison
  | cons c query ih =>
    rw [findOtherAny?]
    split
    next after read =>
      obtain ⟨other, comparison, whole⟩ := afterOtherAny?_eq_some_iff.1 read
      simp only [reduceCtorEq, false_iff, not_forall, not_not]
      exact ⟨other, comparison, whole ▸ (List.prefix_append other after).isInfix⟩
    next missing =>
      rw [ih]
      constructor
      · intro absent other comparison inside
        rcases List.infix_cons_iff.1 inside with ⟨after, whole⟩ | later
        · rw [afterOtherAny?_eq_some_iff.2 ⟨other, comparison, whole.symm⟩] at missing
          cases missing
        · exact absent other comparison later
      · exact fun absent other comparison inside =>
          absent other comparison (List.infix_cons inside)

/-! ## Shapes -/

/-- What keeps a comparison apart from text around it: the signs it can begin with, the closing
parenthesis at its end, and a letter that it cannot hold. -/
structure ComparisonShape (comparison : Text) : Prop where
  first : ∃ c rest, c ∈ ['=', '!', '<', '>'] ∧ comparison = c :: rest
  last : ∃ lead, comparison = lead ++ [')']
  no_i : 'I' ∉ comparison

theorem AnyPlaceholder.mem_cases {list : Text} (placeholder : AnyPlaceholder list) {c : Char}
    (mem : c ∈ list) :
    isBlank c = true ∨ c ∈ ['a', 'A', 'n', 'N', 'y', 'Y', 's', 'S', '\u017f', '(', '%', ')'] := by
  cases placeholder with
  | @intro a n y s before inside after ha hn hy hs hBefore hInside hAfter =>
    simp only [List.mem_append, List.mem_cons, List.not_mem_nil, or_false] at *
    rcases mem with (h | h | h) | h | h | (h | h | h) | h | h
    · grind
    · grind
    · grind
    · exact Or.inl (hBefore c h)
    · grind
    · exact Or.inl (hInside c h)
    · grind
    · grind
    · exact Or.inl (hAfter c h)
    · grind

theorem AnyPlaceholder.not_mem_of_visible {list : Text} (placeholder : AnyPlaceholder list)
    {c : Char} (visible : isBlank c = false)
    (foreign : c ∉ ['a', 'A', 'n', 'N', 'y', 'Y', 's', 'S', '\u017f', '(', '%', ')']) :
    c ∉ list := by
  intro mem
  rcases placeholder.mem_cases mem with blank | own
  · rw [blank] at visible
    cases visible
  · exact foreign own

theorem AnyPlaceholder.exists_concat {list : Text} (placeholder : AnyPlaceholder list) :
    ∃ lead, list = lead ++ [')'] := by
  cases placeholder with
  | @intro a n y s before inside after =>
    exact ⟨[a, n, y] ++ (before ++ '(' :: (inside ++ ['%', s] ++ after)), by simp⟩

theorem MembershipTest.shape {test : Text} (membership : MembershipTest test) :
    ComparisonShape test := by
  cases membership with
  | @intro w list hw hList =>
    refine ⟨⟨'=', _, by decide, rfl⟩, ?_, ?_⟩
    · obtain ⟨lead, rfl⟩ := hList.exists_concat
      exact ⟨'=' :: (w ++ lead), by simp⟩
    · rw [List.mem_cons, List.mem_append, not_or, not_or]
      exact ⟨by decide, hw.not_mem (by decide), hList.not_mem_of_visible (by decide) (by decide)⟩

theorem OtherComparison.shape {other : Text} (comparison : OtherComparison other) :
    ComparisonShape other := by
  cases comparison with
  | @sign c w list sign hw hList =>
    refine ⟨⟨c, _, List.mem_cons_of_mem _ sign, rfl⟩, ?_, ?_⟩
    · obtain ⟨lead, rfl⟩ := hList.exists_concat
      exact ⟨c :: (w ++ lead), by simp⟩
    · rw [List.mem_cons, List.mem_append, not_or, not_or]
      refine ⟨?_, hw.not_mem (by decide), hList.not_mem_of_visible (by decide) (by decide)⟩
      rintro rfl
      exact absurd sign (by decide)
  | @signEquals c w test sign hw hTest =>
    refine ⟨⟨c, _, List.mem_cons_of_mem _ sign, rfl⟩, ?_, ?_⟩
    · obtain ⟨lead, same⟩ := hTest.shape.last
      exact ⟨c :: (w ++ lead), by simp [same]⟩
    · rw [List.mem_cons, List.mem_append, not_or, not_or]
      refine ⟨?_, hw.not_mem (by decide), hTest.shape.no_i⟩
      rintro rfl
      exact absurd sign (by decide)

theorem MembershipTest.exists_cons {test : Text} (membership : MembershipTest test) :
    ∃ rest, test = '=' :: rest ∧ '=' ∉ rest := by
  cases membership with
  | @intro w list hw hList =>
    refine ⟨_, rfl, ?_⟩
    rw [List.mem_append, not_or]
    exact ⟨hw.not_mem (by decide), hList.not_mem_of_visible (by decide) (by decide)⟩

theorem MembershipTest.read {test : Text} (membership : MembershipTest test) (r : Text) :
    afterEqualsAny? (test ++ r) = some r :=
  afterEqualsAny?_eq_some_iff.2 ⟨[], test, Text.blank_nil, membership, rfl⟩

-- At most one membership test begins at a place.
theorem MembershipTest.eq_of_append_eq {test test' r r' : Text} (membership : MembershipTest test)
    (membership' : MembershipTest test') (same : test ++ r = test' ++ r') :
    test = test' ∧ r = r' := by
  have read := membership.read r
  rw [same, membership'.read r'] at read
  obtain rfl := Option.some.inj read
  exact ⟨List.append_cancel_right same, rfl⟩

-- Of two tests in a text the later one begins after the earlier one has ended.
theorem MembershipTest.eq_or_after {test test' r place after : Text}
    (membership : MembershipTest test) (membership' : MembershipTest test')
    (same : test ++ r = place ++ (test' ++ after)) :
    (place = [] ∧ test = test' ∧ r = after) ∨
      ∃ between, place = test ++ between ∧ r = between ++ (test' ++ after) := by
  cases place with
  | nil => exact Or.inl ⟨rfl, membership.eq_of_append_eq membership' same⟩
  | cons c place =>
    right
    rcases List.append_eq_append_iff.1 same with ⟨between, ends, rest⟩ | ⟨overlap, whole, rest⟩
    · exact ⟨between, ends, rest⟩
    · cases overlap with
      | nil => exact ⟨[], by rw [whole]; simp, rest.symm⟩
      | cons d overlap =>
        obtain ⟨_, begins, -⟩ := membership'.exists_cons
        obtain ⟨_, equals, only⟩ := membership.exists_cons
        rw [begins] at rest
        obtain ⟨rfl, -⟩ := List.cons.inj rest
        rw [whole] at equals
        obtain ⟨-, rfl⟩ := List.cons.inj equals
        simp at only

end SqlDialect

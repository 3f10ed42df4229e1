import Mathlib.Data.List.Flatten
import Mathlib.Tactic.MkIffOfInductiveProp
import SqlDialect.Proofs.Token.Unit

/-! The units of a text and its tokens.

Tokens written out with spaces between them have the units that the tokens have one by one. So a
text keeps its units when its tokens are written out exactly if no unit lies across the end of a
token.
-/

set_option autoImplicit false

namespace SqlDialect

variable {mark : Char} {t r : Text}

/-! ## Quoted tokens -/

theorem closes_cons_of_ne {c : Char} (other : c ≠ mark) (nonempty : r ≠ []) :
    closes mark (c :: r) = closes mark r := by
  obtain ⟨d, r, rfl⟩ := List.exists_cons_of_ne_nil nonempty
  rw [closes, if_neg other]

theorem Paired.closes {body : Text} (paired : Paired body) :
    closes '\'' (body ++ ['\'']) = true := by
  induction paired with
  | nil => rfl
  | pair _ ih => exact ih
  | @char c s other _ ih =>
    rw [List.cons_append, closes_cons_of_ne other (by simp)]
    exact ih

theorem closes_of_not_mem {body : Text} (unmarked : mark ∉ body) :
    closes mark (body ++ [mark]) = true := by
  induction body with
  | nil => simp [closes]
  | cons c body ih =>
    have other := List.ne_of_not_mem_cons unmarked
    rw [List.cons_append, closes_cons_of_ne other.symm (by simp)]
    exact ih (List.not_mem_of_not_mem_cons unmarked)

def quotes : List Char := ['\'', '"']

theorem isUnit_cons_iff {body : Text} (listed : mark ∈ quotes) :
    IsUnit (mark :: body) ↔ closes mark body = true ∨ body = [] := by
  simp only [quotes, List.mem_cons, List.not_mem_nil, or_false] at listed
  have visible : isBlank '\'' = false ∧ isBlank '"' = false := by decide
  rcases listed with rfl | rfl <;> cases body <;>
    simp [IsUnit, isQuoted, isWord, isNumber, operators, comparisons, isComment, isSingle, visible]

theorem leads_quoted {body : Text} (listed : mark ∈ quotes) (closed : closes mark body = true)
    (single : r.head? ≠ some mark) : Leads (mark :: body) r := by
  refine ⟨(isUnit_cons_iff listed).2 (.inl closed), fun v after unit same => ?_⟩
  obtain ⟨c, v, rfl, -⟩ := unit.exists_cons
  obtain ⟨rfl, later⟩ := List.cons.inj same
  rcases (isUnit_cons_iff listed).1 unit with closed' | rfl
  · exact Nat.succ_le_succ (length_le_of_closes closed single closed' later)
  · exact Nat.succ_le_succ (Nat.zero_le _)

theorem Begins.quoted_or_unquoted (begins : Begins t r) (closed : ¬(⟨t⟩ : Token).IsLone) :
    (∃ mark ∈ quotes, ∃ body, t = mark :: body ∧ closes mark body = true) ∨ Unquoted t := by
  rcases begins.marks with ⟨body, paired, rfl, -⟩ | ⟨-, lone⟩ | ⟨body, unmarked, rfl⟩ | ⟨-, lone⟩ |
    ⟨noMark, noDoubleMark⟩
  · exact .inl ⟨'\'', by decide, _, rfl, paired.closes⟩
  · exact absurd (.inl lone) closed
  · exact .inl ⟨'"', by decide, _, rfl, closes_of_not_mem unmarked⟩
  · exact absurd (.inr lone) closed
  · refine .inr ⟨noMark, noDoubleMark, fun found => ?_⟩
    have hyphen : '-' ∈ t := found.subset (by simp)
    cases begins with
    | wildcard _ all _ =>
      rcases List.mem_cons.1 hyphen with dollar | digit
      · exact absurd dollar (by decide)
      · exact absurd (all _ digit) (by decide)
    | comparison listed =>
      exact absurd hyphen ((by decide : ∀ t ∈ comparisons, '-' ∉ t) t listed)
    | word _ named _ => exact absurd (named _ hyphen) (by decide)
    | single => simpa using found.length_le
    | literal | openLiteral => simp at noMark
    | name | openName => simp at noDoubleMark

/-! ## Tokens with spaces between them -/

theorem pieces_nil : pieces [] = [] := pieces_of_blank Text.blank_nil

theorem Leads.pieces_eq (leads : Leads t []) : pieces t = [t] := by
  have read := leads.read
  rwa [List.append_nil, pieces_nil] at read

theorem Begins.pieces_append_spaced (begins : Begins t r) (closed : ¬(⟨t⟩ : Token).IsLone)
    (tokens : List Token) :
    pieces (t ++ Token.spaced tokens) = pieces t ++ pieces (Token.spaced tokens) := by
  cases tokens with
  | nil => rw [Token.spaced_nil, List.append_nil, pieces_nil, List.append_nil]
  | cons u tokens =>
    rw [Token.spaced_cons, pieces_blank_append _ blank_space, List.singleton_append]
    rcases begins.quoted_or_unquoted closed with ⟨mark, listed, body, rfl, closes⟩ | unquoted
    · have apart : ' ' ≠ mark := by
        rintro rfl
        exact absurd listed (by decide)
      have before := leads_quoted (r := ' ' :: (u.text ++ Token.spaced tokens)) listed closes
        fun same => apart (Option.some.inj same)
      have alone : Leads (mark :: body) [] := leads_quoted listed closes nofun
      have space := pieces_blank_append (u.text ++ Token.spaced tokens) blank_space
      rw [List.singleton_append] at space
      rw [before.read, alone.pieces_eq, space, List.singleton_append]
    · exact pieces_append_space unquoted _

theorem pieces_spaced {tokens : List Token} (stands : ∀ t ∈ tokens, t.Stands) :
    pieces (Token.spaced tokens) = tokens.flatMap fun t => pieces t.text := by
  induction tokens with
  | nil => exact pieces_nil
  | cons t tokens ih =>
    obtain ⟨⟨single, closed⟩, stands⟩ := List.forall_mem_cons.1 stands
    rw [Token.spaced_cons, pieces_blank_append _ blank_space,
      (tokenize_text_iff.1 single).pieces_append_spaced closed, ih stands, List.flatMap_cons]

theorem pieces_join {tokens : List Token} (stands : ∀ t ∈ tokens, t.Stands) :
    pieces (Token.join tokens) = tokens.flatMap fun t => pieces t.text := by
  rw [← pieces_spaced stands]
  cases tokens with
  | nil => rfl
  | cons t tokens =>
    rw [Token.join_cons, Token.spaced_cons, pieces_blank_append _ blank_space]

-- Hyphens that stand in a token stand in quotation marks or by themselves.
theorem not_isComment_of_mem {tokens : List Token} (stands : ∀ t ∈ tokens, t.Stands) :
    ∀ u ∈ tokens.flatMap (fun t => pieces t.text), isComment u = false := by
  intro u mem
  obtain ⟨t, token, inside⟩ := List.mem_flatMap.1 mem
  refine Bool.eq_false_iff.2 fun comment => ?_
  obtain ⟨line, rfl, -⟩ := isComment_iff.1 comment
  obtain ⟨single, closed⟩ := stands t token
  rcases (tokenize_text_iff.1 single).quoted_or_unquoted closed with
    ⟨mark, listed, body, same, closes⟩ | unquoted
  · have alone : Leads (mark :: body) [] := leads_quoted listed closes nofun
    rw [same, alone.pieces_eq, List.mem_singleton] at inside
    obtain ⟨rfl, -⟩ := List.cons.inj inside
    exact absurd listed (by decide)
  · refine unquoted.noComment (List.IsInfix.trans ?_ ((cut_pieces t.text).infix_of_mem inside))
    exact ⟨[], line, rfl⟩

theorem units_eq_pieces {s : Text} (silent : ∀ u ∈ pieces s, isComment u = false) :
    units s = pieces s := by
  rw [units, List.filter_eq_self]
  intro u mem
  rw [silent u mem]
  rfl

theorem units_join {tokens : List Token} (stands : ∀ t ∈ tokens, t.Stands) :
    units (Token.join tokens) = tokens.flatMap fun t => pieces t.text := by
  rw [← pieces_join stands]
  refine units_eq_pieces ?_
  rw [pieces_join stands]
  exact not_isComment_of_mem stands

/-! ## A text and its tokens -/

theorem length_visible_units_lt {s u : Text} (mem : u ∈ pieces s) (comment : isComment u = true) :
    ((units s).flatMap visible).length < (visible s).length := by
  have whole : (pieces s).flatMap visible = visible s := (cut_pieces s).flatMap_visible
  obtain ⟨before, after, parts⟩ := List.append_of_mem mem
  have kept (us : List Text) :
      ((us.filter (!isComment ·)).flatMap visible).length ≤ (us.flatMap visible).length :=
    (List.filter_sublist.flatMap visible).length_le
  have lost : 0 < (visible u).length := by
    obtain ⟨line, rfl, -⟩ := isComment_iff.1 comment
    rw [visible, List.filter_cons_of_pos (by decide)]
    exact Nat.succ_pos _
  have left := kept before
  have right := kept after
  rw [← whole, units, parts, List.filter_append, List.filter_cons_of_neg (by simp [comment])]
  simp only [List.flatMap_append, List.flatMap_cons, List.length_append]
  omega

/-- A text keeps its units when its tokens are written out exactly if its tokens are made of
whole units. -/
theorem units_join_tokenize_eq_iff {s : Text} (closed : ∀ t ∈ tokenize s, ¬t.IsLone) :
    units (Token.join (tokenize s)) = units s ↔
      pieces s = (tokenize s).flatMap fun t => pieces t.text := by
  have stands := stands_of_mem_tokenize closed
  rw [units_join stands]
  constructor
  · intro same
    have all : (units s).flatMap visible = visible s := by
      obtain ⟨_, _, cut⟩ := exists_segmentation s
      rw [← same, List.flatMap_assoc, visible, ← cut.visible, cut.tokens]
      exact List.flatMap_congr fun t _ => (cut_pieces t.text).flatMap_visible
    rw [same]
    refine (units_eq_pieces fun u mem => Bool.eq_false_iff.2 fun comment => ?_).symm
    exact absurd (congrArg List.length all) (Nat.ne_of_lt (length_visible_units_lt mem comment))
  · intro same
    rw [← same]
    refine (units_eq_pieces ?_).symm
    rw [same]
    exact not_isComment_of_mem stands

/-! ## Plain units -/

/-- A unit that no token cuts: no comment, no operator, a number of digits alone, a name without
marks inside. -/
@[mk_iff]
structure Plain (u : Text) : Prop where
  noComment : isComment u = false
  noOperator : operators.contains u = false
  whole : isNumber u = true → u.all Char.isDigit = true
  unmarked : u.head? = some '"' → u.count '"' ≤ 2

instance (u : Text) : Decidable (Plain u) := decidable_of_iff _ (plain_iff u).symm

theorem Plain.kinds {u : Text} (plain : Plain u) (unit : IsUnit u) :
    (∃ mark ∈ quotes, u.head? = some mark) ∨ isWord u = true ∨ (∀ c ∈ u, c.isDigit = true) ∨
      u ∈ comparisons ∨ ∃ c, u = [c] := by
  rcases unit with quoted | quoted | word | number | operator | comparison | comment | single
  · obtain ⟨body, rfl, -⟩ := isQuoted_iff.1 quoted
    exact .inl ⟨'\'', by decide, rfl⟩
  · obtain ⟨body, rfl, -⟩ := isQuoted_iff.1 quoted
    exact .inl ⟨'"', by decide, rfl⟩
  · exact .inr (.inl word)
  · exact .inr (.inr (.inl (List.all_eq_true.1 (plain.whole number))))
  · exact absurd (List.contains_iff_mem.2 operator) (Bool.eq_false_iff.1 plain.noOperator)
  · exact .inr (.inr (.inr (.inl comparison)))
  · rw [plain.noComment] at comment
    cases comment
  · obtain ⟨c, rfl, -⟩ := isSingle_iff.1 single
    exact .inr (.inr (.inr (.inr ⟨c, rfl⟩)))

theorem Leads.pieces_append (leads : Leads t r) : pieces (t ++ r) = pieces t ++ pieces r := by
  have alone : Leads t [] := leads.of_append
  rw [alone.pieces_eq, leads.read, List.singleton_append]

theorem exists_plain (begins : Begins t r) (plain : ∀ u ∈ pieces (t ++ r), Plain u) :
    ∃ u rest, t ++ r = u ++ rest ∧ Leads u rest ∧ Plain u := by
  obtain ⟨c, body, rfl, visible, -⟩ := begins.read
  obtain ⟨u, rest, whole, leads⟩ := exists_leads (body ++ r) visible
  refine ⟨u, rest, whole, leads, plain u ?_⟩
  rw [List.cons_append, whole, leads.read]
  exact List.mem_cons_self

-- A piece of the run's own characters ends where the run does, or before.
theorem exists_append_of_run {p : Char → Bool} {u rest : Text} (whole : t ++ r = u ++ rest)
    (all : ∀ c ∈ u, p c = true) (stop : ∀ c ∈ r.head?, p c = false) :
    ∃ left, t = u ++ left ∧ rest = left ++ r := by
  rcases List.append_eq_append_iff.1 whole with ⟨beyond, ends, later⟩ | ⟨left, inside, later⟩
  · cases beyond with
    | nil => exact ⟨[], by rw [ends]; simp, later.symm⟩
    | cons c beyond =>
      have outside := stop c (by rw [later]; rfl)
      rw [all c (by rw [ends]; simp)] at outside
      cases outside
  · exact ⟨left, inside, later⟩

-- A run of characters is made of whole units if no unit that begins in it leaves it.
theorem pieces_append_run {p : Char → Bool}
    (own : ∀ u, IsUnit u → Plain u → (∀ c ∈ u.head?, p c = true) → ∀ c ∈ u, p c = true)
    (visible : ∀ c, p c = true → isBlank c = false) (all : ∀ c ∈ t, p c = true)
    (stop : ∀ c ∈ r.head?, p c = false) (plain : ∀ u ∈ pieces (t ++ r), Plain u) :
    pieces (t ++ r) = pieces t ++ pieces r := by
  generalize length : t.length = n
  induction n using Nat.strong_induction_on generalizing t with
  | _ n ih =>
    cases t with
    | nil => rw [pieces_nil]; rfl
    | cons c t =>
      obtain ⟨first, -⟩ := List.forall_mem_cons.1 all
      obtain ⟨u, rest, whole, leads⟩ := exists_leads (t ++ r) (visible c first)
      rw [← List.cons_append] at whole
      rw [whole, leads.read] at plain
      obtain ⟨here, later⟩ := List.forall_mem_cons.1 plain
      obtain ⟨_, body, rfl, -⟩ := leads.unit.exists_cons
      obtain ⟨rfl, -⟩ := List.cons.inj whole
      have named := own _ leads.unit here (by rintro _ ⟨⟩; exact first)
      obtain ⟨left, inside, rfl⟩ := exists_append_of_run whole named stop
      rw [inside] at length all ⊢
      have shorter : left.length < n := by
        rw [← length, List.length_append, List.length_cons]
        omega
      have split := ih left.length shorter (List.forall_mem_append.1 all).2 later rfl
      have alone : Leads (c :: body) left := leads.of_append
      rw [List.append_assoc, leads.read, split, alone.read, List.cons_append]

theorem isNameChar_of_mem_quotes {c : Char} (listed : c ∈ quotes) : isNameChar c = false := by
  simp only [quotes, List.mem_cons, List.not_mem_nil, or_false] at listed
  rcases listed with rfl | rfl <;> decide

theorem comparisons_cons {u : Text} (listed : u ∈ comparisons) :
    ∃ c d, u = [c, d] ∧ c ≠ '$' ∧ c ∉ quotes ∧ isNameChar c = false := by
  simp only [comparisons, List.mem_cons, List.not_mem_nil, or_false] at listed
  rcases listed with rfl | rfl | rfl | rfl <;>
    exact ⟨_, _, rfl, by decide, by decide, by decide⟩

theorem Plain.all_isNameChar {u : Text} (plain : Plain u) (unit : IsUnit u)
    (named : ∀ c ∈ u.head?, isNameChar c = true) : ∀ c ∈ u, isNameChar c = true := by
  rcases plain.kinds unit with ⟨mark, listed, first⟩ | word | digits | comparison | ⟨c, rfl⟩
  · exact absurd (named mark first) (by simp [isNameChar_of_mem_quotes listed])
  · exact isNameChar_of_isWord word
  · exact fun c mem => isNameChar_of_isDigit (digits c mem)
  · obtain ⟨c, d, rfl, -, -, unnamed⟩ := comparisons_cons comparison
    exact absurd (named c rfl) (by simp [unnamed])
  · exact List.forall_mem_singleton.2 (named c rfl)

theorem Plain.all_isDigit {u : Text} (plain : Plain u) (unit : IsUnit u)
    (digit : ∀ c ∈ u.head?, c.isDigit = true) : ∀ c ∈ u, c.isDigit = true := by
  have named : ∀ c ∈ u.head?, SqlDialect.isNameChar c = true :=
    fun c first => isNameChar_of_isDigit (digit c first)
  rcases plain.kinds unit with ⟨mark, listed, first⟩ | word | digits | comparison | ⟨c, rfl⟩
  · exact absurd (named mark first) (by simp [isNameChar_of_mem_quotes listed])
  · obtain ⟨c, body, rfl, letter, -⟩ := isWord_iff.1 word
    have low := (toNat_of_isDigit (digit c rfl)).2
    rcases letter with letter | rfl
    · have high := (toNat_of_isAlpha letter).1
      omega
    · exact absurd low (by decide)
  · exact digits
  · obtain ⟨c, d, rfl, -, -, unnamed⟩ := comparisons_cons comparison
    exact absurd (named c rfl) (by simp [unnamed])
  · exact List.forall_mem_singleton.2 (digit c rfl)

theorem Plain.comparison_or_single {c : Char} {body : Text} (plain : Plain (c :: body))
    (unit : IsUnit (c :: body)) (noQuote : c ∉ quotes) (unnamed : SqlDialect.isNameChar c = false) :
    c :: body ∈ comparisons ∨ body = [] := by
  rcases plain.kinds unit with ⟨mark, listed, ⟨⟩⟩ | word | digits | comparison | ⟨d, single⟩
  · exact absurd listed noQuote
  · rw [isNameChar_of_isWord word c List.mem_cons_self] at unnamed
    cases unnamed
  · rw [isNameChar_of_isDigit (digits c List.mem_cons_self)] at unnamed
    cases unnamed
  · exact .inl comparison
  · exact .inr (List.cons.inj single).2

theorem Plain.eq_name {u body rest : Text} (plain : Plain u) (unmarked : '"' ∉ body)
    (leads : Leads u rest) (whole : '"' :: body ++ ['"'] ++ r = u ++ rest) :
    u = '"' :: body ++ ['"'] := by
  have listed : '"' ∈ quotes := by decide
  have unit : IsUnit ('"' :: body ++ ['"']) :=
    (isUnit_cons_iff listed).2 (.inl (closes_of_not_mem unmarked))
  have long := leads.longest _ _ unit whole.symm
  obtain ⟨beyond, rfl⟩ : '"' :: body ++ ['"'] <+: u :=
    List.prefix_of_prefix_length_le ⟨r, rfl⟩ ⟨rest, whole.symm⟩ long
  have few := plain.unmarked rfl
  have none : '"' ∉ beyond := by
    intro mem
    have one := List.count_pos_iff.2 mem
    simp only [List.count_append, List.count_cons_self, List.cons_append, List.count_nil] at few
    omega
  rcases (isUnit_cons_iff listed).1 leads.unit with closed | empty
  · have last : (body ++ ['"'] ++ beyond).getLast? = some '"' := getLast?_of_closes closed
    cases beyond with
    | nil => rw [List.append_nil]
    | cons c beyond =>
      rw [List.getLast?_append_of_ne_nil _ (List.cons_ne_nil _ _)] at last
      exact absurd (List.mem_of_getLast? last) none
  · simp at empty

theorem pieces_wildcard_append {digits : Text} (all : ∀ d ∈ digits, d.isDigit = true)
    (stop : ∀ d ∈ r.head?, d.isDigit = false) (leads : Leads ['$'] (digits ++ r))
    (plain : ∀ u ∈ pieces (['$'] ++ (digits ++ r)), Plain u) :
    pieces (['$'] ++ (digits ++ r)) = pieces (['$'] ++ digits) ++ pieces r := by
  have alone : Leads ['$'] digits := leads.of_append
  rw [leads.read] at plain ⊢
  rw [alone.read, List.cons_append]
  refine congrArg _ (pieces_append_run (fun u unit plain => plain.all_isDigit unit)
    (fun _ digit => isBlank_of_isNameChar (isNameChar_of_isDigit digit)) all stop ?_)
  exact fun u mem => plain u (List.mem_cons_of_mem _ mem)

theorem Begins.pieces_append_of_plain (begins : Begins t r) (closed : ¬(⟨t⟩ : Token).IsLone)
    (plain : ∀ u ∈ pieces (t ++ r), Plain u) : pieces (t ++ r) = pieces t ++ pieces r := by
  obtain ⟨u, rest, whole, leads, here⟩ := exists_plain begins plain
  obtain ⟨e, tail, rfl, -⟩ := leads.unit.exists_cons
  cases begins with
  | openLiteral => exact absurd (.inl rfl) closed
  | openName => exact absurd (.inr rfl) closed
  | literal paired single => exact (leads_quoted (by decide) paired.closes single).pieces_append
  | name unmarked =>
    have same := here.eq_name unmarked leads whole
    rw [same] at leads whole
    obtain rfl := List.append_cancel_left whole
    exact leads.pieces_append
  | @wildcard digits _ some all stop =>
    obtain ⟨rfl, later⟩ := List.cons.inj whole
    rcases here.comparison_or_single leads.unit (by decide) (by decide) with comparison | rfl
    · obtain ⟨_, _, ⟨⟩, other, -⟩ := comparisons_cons comparison
      exact absurd rfl other
    · obtain rfl : digits ++ r = rest := later
      exact pieces_wildcard_append all stop leads plain
  | word nonempty named stop =>
    exact pieces_append_run (fun u unit plain => plain.all_isNameChar unit)
      (fun _ => isBlank_of_isNameChar) named stop plain
  | comparison listed =>
    obtain ⟨c, d, rfl, -, noQuote, unnamed⟩ := comparisons_cons listed
    obtain ⟨rfl, later⟩ := List.cons.inj whole
    rcases here.comparison_or_single leads.unit noQuote unnamed with comparison | rfl
    · obtain ⟨_, d', ⟨⟩, -⟩ := comparisons_cons comparison
      obtain ⟨rfl, rfl⟩ := List.cons.inj later
      exact leads.pieces_append
    · have unit : IsUnit [c, d] := by simp [IsUnit, listed]
      exact absurd (leads.longest [c, d] r unit whole.symm) (by simp)
  | @single c _ visible noMark noDoubleMark unnamed dollar unlisted =>
    obtain ⟨rfl, later⟩ := List.cons.inj whole
    have noQuote : c ∉ quotes := by simp [quotes, noMark, noDoubleMark]
    rcases here.comparison_or_single leads.unit noQuote unnamed with comparison | rfl
    · obtain ⟨_, d, ⟨⟩, -⟩ := comparisons_cons comparison
      obtain rfl : r = d :: rest := later
      exact absurd comparison (unlisted d rfl)
    · obtain rfl : r = rest := later
      exact leads.pieces_append

theorem pieces_of_plain {s : Text} (closed : ∀ t ∈ tokenize s, ¬t.IsLone)
    (plain : ∀ u ∈ pieces s, Plain u) :
    pieces s = (tokenize s).flatMap fun t => pieces t.text := by
  obtain ⟨us, last, cut⟩ := exists_segmentation s
  rw [← cut.tokens] at closed ⊢
  induction cut with
  | last blank => exact pieces_of_blank blank
  | @token s gap t r last us whole blank begins _ ih =>
    obtain ⟨here, later⟩ := List.forall_mem_cons.1 closed
    subst whole
    rw [pieces_blank_append _ blank] at plain ⊢
    have parts := begins.pieces_append_of_plain here plain
    rw [parts] at plain ⊢
    rw [List.map_cons, List.flatMap_cons,
      ih (fun u mem => plain u (List.mem_append_right _ mem)) later]

end SqlDialect

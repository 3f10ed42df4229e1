import SqlDialect.Proofs.Text.Blank
import SqlDialect.Proofs.Token.Quotation

/-! What the tokens of a text are, told without the scanner.

The text from its first character on decides a token, and white space is all that lies between
two tokens. So every text falls apart in exactly one way, and that is what `tokenize` finds.
-/

set_option autoImplicit false

namespace SqlDialect

def comparisons : List Text := ["!=", "<>", "<=", ">="]

/-- `Begins t r` says that `t` is the token with which the text `t ++ r` begins. -/
inductive Begins : Text → Text → Prop where
  /-- A dollar sign and the longest run of digits, which is not empty. -/
  | wildcard {digits r : Text} : digits ≠ [] → (∀ d ∈ digits, d.isDigit = true) →
      (∀ d ∈ r.head?, d.isDigit = false) → Begins ('$' :: digits) r
  | comparison {t r : Text} : t ∈ comparisons → Begins t r
  /-- A literal goes through the first mark that is not half of a pair. -/
  | literal {body r : Text} : Paired body → r.head? ≠ some '\'' → Begins ('\'' :: body ++ ['\'']) r
  | openLiteral {r : Text} :
      (¬∃ body after, Paired body ∧ r = body ++ '\'' :: after ∧ after.head? ≠ some '\'') →
      Begins ['\''] r
  /-- A quoted name goes through the next double mark. -/
  | name {body r : Text} : '"' ∉ body → Begins ('"' :: body ++ ['"']) r
  | openName {r : Text} : '"' ∉ r → Begins ['"'] r
  /-- The longest run of letters, digits and underscores. -/
  | word {t r : Text} : t ≠ [] → (∀ c ∈ t, isNameChar c = true) →
      (∀ c ∈ r.head?, isNameChar c = false) → Begins t r
  /-- Any other character that is no white space is a token of its own. -/
  | single {c : Char} {r : Text} : isBlank c = false → c ≠ '\'' → c ≠ '"' →
      isNameChar c = false → (c = '$' → ∀ d ∈ r.head?, d.isDigit = false) →
      (∀ d ∈ r.head?, [c, d] ∉ comparisons) → Begins [c] r

/-- A text cut into white space and tokens: each token with the white space before it, and the
white space after the last. -/
inductive Segmentation : Text → List (Text × Token) → Text → Prop where
  | last {s : Text} : s.Blank → Segmentation s [] s
  | token {s gap t r last : Text} {pieces : List (Text × Token)} : s = gap ++ (t ++ r) →
      gap.Blank → Begins t r → Segmentation r pieces last →
      Segmentation s ((gap, ⟨t⟩) :: pieces) last

/-! ## The token at the head of a text -/

theorem mem_comparisons_iff {t : Text} :
    t ∈ comparisons ↔ ∃ first second, t = [first, second] ∧ isComparison first second = true := by
  simp only [comparisons, isComparison, List.mem_cons, List.not_mem_nil, or_false]
  constructor
  · rintro (rfl | rfl | rfl | rfl) <;> exact ⟨_, _, rfl, by decide⟩
  · rintro ⟨first, second, rfl, listed⟩
    simpa [or_assoc] using listed

theorem isBlank_of_isNameChar {c : Char} (named : isNameChar c = true) : isBlank c = false := by
  have range : 0x30 ≤ c.toNat ∧ c.toNat ≤ 0x7A := by
    rcases Bool.or_eq_true_iff.1 named with letterOrDigit | underscore
    · rcases Bool.or_eq_true_iff.1 letterOrDigit with letter | digit
      · exact (toNat_of_isAlpha letter).imp_left (Nat.le_trans (by decide))
      · exact (toNat_of_isDigit digit).imp_right (Nat.le_trans · (by decide))
    · rw [beq_iff_eq.1 underscore]
      decide
  unfold isBlank
  simp
  omega

theorem isNameChar_of_isAlpha {c : Char} (letter : c.isAlpha = true) : isNameChar c = true := by
  simp [isNameChar, Char.isAlphanum, letter]

theorem isAlpha_eq_false_of_isNameChar {c : Char} (sign : isNameChar c = false) :
    c.isAlpha = false := by
  refine Bool.eq_false_iff.2 fun letter => ?_
  rw [isNameChar_of_isAlpha letter] at sign
  cases sign

theorem ne_of_isNameChar {c d : Char} (named : isNameChar c = true)
    (other : isNameChar d = false := by decide) : c ≠ d := by
  rintro rfl
  rw [named] at other
  cases other

theorem lexeme_of_isNameChar {c : Char} (r : Text) (named : isNameChar c = true) :
    lexeme c r = (c :: r.takeWhile isNameChar, r.dropWhile isNameChar) := by
  unfold lexeme
  rw [if_neg (ne_of_isNameChar named), if_neg (ne_of_isNameChar named),
    if_neg (ne_of_isNameChar named), if_pos named]

theorem lexeme_of_other {c : Char} (r : Text) (noDollar : c ≠ '$') (noMark : c ≠ '\'')
    (noDoubleMark : c ≠ '"') (unnamed : isNameChar c = false) :
    lexeme c r = match r with
      | [] => ([c], [])
      | d :: rest => if isComparison c d then ([c, d], rest) else ([c], r) := by
  unfold lexeme
  rw [if_neg noDollar, if_neg noMark, if_neg noDoubleMark]
  exact if_neg (by simp [unnamed])

theorem Begins.read {t r : Text} (begins : Begins t r) :
    ∃ c rest, t = c :: rest ∧ isBlank c = false ∧ lexeme c (rest ++ r) = (t, r) := by
  cases begins with
  | @wildcard digits _ _ all stop =>
    refine ⟨'$', digits, rfl, by decide, ?_⟩
    simp [lexeme, takeWhile_run all stop, dropWhile_run all stop]
  | comparison listed =>
    simp only [comparisons, List.mem_cons, List.not_mem_nil, or_false] at listed
    rcases listed with rfl | rfl | rfl | rfl <;> exact ⟨_, _, rfl, by decide, rfl⟩
  | @literal body _ paired single =>
    refine ⟨'\'', body ++ ['\''], rfl, by decide, ?_⟩
    have closes := closeLiteral?_eq_some_iff.2 ⟨body, paired, rfl, rfl, single⟩
    simp [lexeme, closes]
  | openLiteral endless =>
    refine ⟨'\'', [], rfl, by decide, ?_⟩
    have open? := closeLiteral?_eq_none_iff.2 (endless_iff.1 endless)
    simp [lexeme, open?]
  | @name body _ unmarked =>
    refine ⟨'"', body ++ ['"'], rfl, by decide, ?_⟩
    have closes : closeName? (body ++ '"' :: r) = some (body ++ ['"'], r) :=
      closeName?_eq_some_iff.2 ⟨body, unmarked, rfl, rfl⟩
    simp [lexeme, closes]
  | openName unmarked =>
    refine ⟨'"', [], rfl, by decide, ?_⟩
    simp [lexeme, closeName?_eq_none_iff.2 unmarked]
  | word nonempty named stop =>
    obtain ⟨c, rest, rfl⟩ := List.exists_cons_of_ne_nil nonempty
    obtain ⟨first, named⟩ := List.forall_mem_cons.1 named
    refine ⟨c, rest, rfl, isBlank_of_isNameChar first, ?_⟩
    rw [lexeme_of_isNameChar _ first, takeWhile_run named stop, dropWhile_run named stop]
  | @single c _ visible noMark noDoubleMark unnamed dollar unlisted =>
    refine ⟨c, [], rfl, visible, ?_⟩
    by_cases isDollar : c = '$'
    · subst isDollar
      have none : ∀ d ∈ ([] : Text), d.isDigit = true := List.forall_mem_nil _
      simpa [lexeme] using
        And.intro (takeWhile_run none (dollar rfl)) (dropWhile_run none (dollar rfl))
    · rw [lexeme_of_other _ isDollar noMark noDoubleMark unnamed]
      cases r with
      | nil => rfl
      | cons d r =>
        have plain : ¬isComparison c d = true := fun sign =>
          unlisted d rfl (mem_comparisons_iff.2 ⟨c, d, rfl, sign⟩)
        simp [plain]

theorem begins_lexeme {c : Char} (r : Text) (visible : isBlank c = false) :
    Begins (lexeme c r).1 (lexeme c r).2 := by
  by_cases isMark : c = '\''
  · subst isMark
    cases closes : closeLiteral? r with
    | some closed =>
      obtain ⟨inner, paired, same, -, single⟩ := closeLiteral?_eq_some_iff.1 closes
      simpa [lexeme, closes, same] using Begins.literal paired single
    | none =>
      have endless := endless_iff.2 (closeLiteral?_eq_none_iff.1 closes)
      simpa [lexeme, closes] using Begins.openLiteral endless
  by_cases isDoubleMark : c = '"'
  · subst isDoubleMark
    cases closes : closeName? r with
    | some closed =>
      obtain ⟨inner, unmarked, same, -⟩ := closeName?_eq_some_iff.1 closes
      simpa [lexeme, closes, same] using Begins.name (r := closed.2) unmarked
    | none => simpa [lexeme, closes] using Begins.openName (closeName?_eq_none_iff.1 closes)
  by_cases named : isNameChar c = true
  · rw [lexeme_of_isNameChar r named]
    refine .word (by simp) ?_ (stop_dropWhile r)
    exact List.forall_mem_cons.2 ⟨named, fun d mem => List.mem_takeWhile_imp mem⟩
  have unnamed := Bool.eq_false_iff.2 named
  by_cases isDollar : c = '$'
  · subst isDollar
    have read : lexeme '$' r = ('$' :: r.takeWhile Char.isDigit, r.dropWhile Char.isDigit) := by
      simp [lexeme]
    rw [read]
    by_cases none : r.takeWhile Char.isDigit = []
    · have stop := stop_dropWhile (p := Char.isDigit) r
      have same : r.dropWhile Char.isDigit = r := by
        simpa [none] using List.takeWhile_append_dropWhile (p := Char.isDigit) (l := r)
      rw [same] at stop
      rw [none, same]
      exact .single visible isMark isDoubleMark unnamed (fun _ => stop) (by simp [comparisons])
    · exact .wildcard none (fun d mem => List.mem_takeWhile_imp mem) (stop_dropWhile r)
  · rw [lexeme_of_other r isDollar isMark isDoubleMark unnamed]
    have noDollar {r : Text} : c = '$' → ∀ d ∈ r.head?, d.isDigit = false :=
      fun dollar => absurd dollar isDollar
    cases r with
    | nil => exact .single visible isMark isDoubleMark unnamed noDollar (by simp)
    | cons d r =>
      by_cases sign : isComparison c d = true
      · simpa [sign] using Begins.comparison (r := r) (mem_comparisons_iff.2 ⟨c, d, rfl, sign⟩)
      · have plain : ∀ e ∈ (d :: r).head?, [c, e] ∉ comparisons := by
          rintro _ ⟨⟩ listed
          obtain ⟨_, _, same, listed⟩ := mem_comparisons_iff.1 listed
          cases same
          exact sign listed
        simpa [sign] using Begins.single visible isMark isDoubleMark unnamed noDollar plain

namespace Begins

variable {gap gap' t t' r r' : Text}

theorem not_blank (begins : Begins t r) : ¬(gap ++ (t ++ r)).Blank := by
  obtain ⟨c, rest, rfl, visible, -⟩ := begins.read
  intro blank
  have := blank c (by simp)
  rw [visible] at this
  cases this

theorem unique (begins : Begins t r) (blank : gap.Blank) (begins' : Begins t' r')
    (blank' : gap'.Blank) (same : gap ++ (t ++ r) = gap' ++ (t' ++ r')) :
    gap = gap' ∧ t = t' ∧ r = r' := by
  obtain ⟨c, rest, rfl, visible, read⟩ := begins.read
  obtain ⟨c', rest', rfl, visible', read'⟩ := begins'.read
  have stop : ∀ d ∈ (c :: (rest ++ r)).head?, isBlank d = false := by simpa using visible
  have stop' : ∀ d ∈ (c' :: (rest' ++ r')).head?, isBlank d = false := by simpa using visible'
  have gaps := congrArg (List.takeWhile isBlank) same
  have texts := congrArg (List.dropWhile isBlank) same
  simp only [List.cons_append] at gaps texts
  rw [takeWhile_run blank stop, takeWhile_run blank' stop'] at gaps
  rw [dropWhile_run blank stop, dropWhile_run blank' stop'] at texts
  obtain ⟨rfl, after⟩ := List.cons.inj texts
  rw [after] at read
  exact ⟨gaps, Prod.mk.inj (read.symm.trans read')⟩

end Begins

-- The marks in a token: those around a literal, which no mark follows, or around a name, one that
-- opens nothing, or none.
theorem Begins.marks {t r : Text} (begins : Begins t r) :
    (∃ body, Paired body ∧ t = '\'' :: body ++ ['\''] ∧ r.head? ≠ some '\'') ∨
      (Paired r ∧ t = ['\'']) ∨
      (∃ body, '"' ∉ body ∧ t = '"' :: body ++ ['"']) ∨ ('"' ∉ r ∧ t = ['"']) ∨
      '\'' ∉ t ∧ '"' ∉ t := by
  cases begins with
  | literal paired single => exact .inl ⟨_, paired, rfl, single⟩
  | openLiteral endless => exact .inr (.inl ⟨endless_iff.1 endless, rfl⟩)
  | name unmarked => exact .inr (.inr (.inl ⟨_, unmarked, rfl⟩))
  | openName unmarked => exact .inr (.inr (.inr (.inl ⟨unmarked, rfl⟩)))
  | wildcard _ all _ =>
    refine .inr (.inr (.inr (.inr ⟨?_, ?_⟩))) <;>
      exact List.not_mem_cons_of_ne_of_not_mem (by decide) fun mem => absurd (all _ mem) (by decide)
  | comparison listed =>
    simp only [comparisons, List.mem_cons, List.not_mem_nil, or_false] at listed
    refine .inr (.inr (.inr (.inr ?_)))
    rcases listed with rfl | rfl | rfl | rfl <;> decide
  | word _ named _ =>
    refine .inr (.inr (.inr (.inr ⟨?_, ?_⟩))) <;>
      exact fun mem => absurd (named _ mem) (by decide)
  | single _ noMark noDoubleMark _ _ _ =>
    refine .inr (.inr (.inr (.inr ⟨?_, ?_⟩)))
    · simpa using noMark.symm
    · simpa using noDoubleMark.symm

/-! ## The whole text -/

theorem Text.Blank.filter_visible {s : Text} (blank : s.Blank) : s.filter (!isBlank ·) = [] := by
  rw [List.filter_eq_nil_iff]
  intro c mem
  simp [blank c mem]

theorem tokenize_of_blank {s : Text} (blank : s.Blank) : tokenize s = [] := by
  have none : s.dropBlank = [] := List.dropWhile_eq_nil_iff.2 blank
  rw [tokenize]
  split
  · rfl
  · next some => cases none.symm.trans some

theorem tokenize_of_begins {gap t r : Text} (blank : gap.Blank) (begins : Begins t r) :
    tokenize (gap ++ (t ++ r)) = ⟨t⟩ :: tokenize r := by
  obtain ⟨c, rest, rfl, visible, read⟩ := begins.read
  have first : (gap ++ (c :: rest ++ r)).dropBlank = c :: (rest ++ r) :=
    Text.dropBlank_eq_cons_iff.2 ⟨visible, gap, blank, rfl⟩
  rw [tokenize]
  split
  · next none => cases first.symm.trans none
  · next some =>
    cases first.symm.trans some
    rw [read]

namespace Segmentation

variable {s last last' : Text} {pieces pieces' : List (Text × Token)}

theorem whole (cut : Segmentation s pieces last) :
    s = pieces.flatMap (fun piece => piece.1 ++ piece.2.text) ++ last := by
  induction cut with
  | last => rfl
  | token same _ _ _ ih =>
    rw [same, ih]
    simp

theorem tokens (cut : Segmentation s pieces last) : pieces.map Prod.snd = tokenize s := by
  induction cut with
  | last blank => exact (tokenize_of_blank blank).symm
  | token same blank begins _ ih => rw [same, tokenize_of_begins blank begins, ← ih, List.map_cons]

theorem visible (cut : Segmentation s pieces last) :
    (pieces.map Prod.snd).flatMap (fun t => t.text.filter (!isBlank ·)) =
      s.filter (!isBlank ·) := by
  induction cut with
  | last blank => exact blank.filter_visible.symm
  | token same blank _ _ ih =>
    rw [same, List.filter_append, List.filter_append, blank.filter_visible, List.nil_append,
      List.map_cons, List.flatMap_cons, ih]

theorem unique (cut : Segmentation s pieces last) (cut' : Segmentation s pieces' last') :
    pieces = pieces' ∧ last = last' := by
  induction cut generalizing pieces' last' with
  | last blank =>
    cases cut' with
    | last => exact ⟨rfl, rfl⟩
    | token same _ begins _ => exact absurd (same ▸ blank) begins.not_blank
  | token same blank begins _ ih =>
    cases cut' with
    | last blank' => exact absurd (same ▸ blank') begins.not_blank
    | token same' blank' begins' rest' =>
      obtain ⟨rfl, rfl, rfl⟩ := begins.unique blank begins' blank' (same.symm.trans same')
      obtain ⟨rfl, rfl⟩ := ih rest'
      exact ⟨rfl, rfl⟩

end Segmentation

theorem exists_segmentation (s : Text) : ∃ pieces last, Segmentation s pieces last := by
  fun_induction tokenize s with
  | case1 s none => exact ⟨[], s, .last (List.dropWhile_eq_nil_iff.1 none)⟩
  | case2 s c r first ih =>
    obtain ⟨visible, gap, blank, rfl⟩ := Text.dropBlank_eq_cons_iff.1 first
    obtain ⟨pieces, last, cut⟩ := ih
    refine ⟨(gap, ⟨(lexeme c r).1⟩) :: pieces, last, ?_⟩
    exact .token (by rw [lexeme_append]) blank (begins_lexeme r visible) cut

-- Tokens and the white space around them are the whole text, so nothing but white space is lost;
-- and each token is what the text from its first character on begins with.
/-- The tokens of a text are those of the one way to cut it. -/
theorem tokenize_segments (s : Text) :
    ∃ pieces last, Segmentation s pieces last ∧
      (∀ pieces' last', Segmentation s pieces' last' → pieces' = pieces ∧ last' = last) ∧
      tokenize s = pieces.map Prod.snd ∧
      s = pieces.flatMap (fun piece => piece.1 ++ piece.2.text) ++ last ∧
      (tokenize s).flatMap (fun t => t.text.filter (!isBlank ·)) = s.filter (!isBlank ·) := by
  obtain ⟨pieces, last, cut⟩ := exists_segmentation s
  refine ⟨pieces, last, cut, fun _ _ cut' => cut'.unique cut, cut.tokens.symm, cut.whole, ?_⟩
  rw [← cut.tokens]
  exact cut.visible

end SqlDialect

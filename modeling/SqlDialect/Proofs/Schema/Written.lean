import SqlDialect.Cell.Basic
import SqlDialect.Proofs.Schema.Fragment
import SqlDialect.Proofs.Schema.Script
import SqlDialect.Proofs.Text.Numeral
import SqlDialect.Proofs.Text.Part
import SqlDialect.Proofs.Token.Join

/-! Scripts written out of statements or tokens and split again.

What splitting makes is split no further, so its statements written out come back as they are. A
script is split before its quotation marks are looked at, so a literal comes through whole just
where nothing in it ends a statement, a line or, with a comment, what is kept of a line.
-/

set_option autoImplicit false

namespace SqlDialect

/-! ## What a script is split at -/

/-- Wherever they stand, these end a statement, a line, and what is kept of a line. -/
def scriptBreaks : List Text := [";", "\n", "--"]

def Text.Unbroken (s : Text) : Prop := ∀ needle ∈ scriptBreaks, ¬needle <:+: s

instance (s : Text) : Decidable s.Unbroken := inferInstanceAs (Decidable (∀ _ ∈ _, _))

theorem ne_nil_of_mem_scriptBreaks {needle : Text} (mem : needle ∈ scriptBreaks) : needle ≠ [] := by
  have all : ∀ needle ∈ scriptBreaks, needle ≠ [] := by decide
  exact all needle mem

namespace Text

theorem unbroken_iff {s : Text} :
    s.Unbroken ↔ ';' ∉ s ∧ '\n' ∉ s ∧ ¬"--".toList <:+: s := by
  simp [Unbroken, scriptBreaks, List.singleton_infix_iff]

theorem Unbroken.of_infix {s t : Text} (unbroken : s.Unbroken) (inside : t <:+: s) : t.Unbroken :=
  fun needle listed found => unbroken needle listed (found.trans inside)

theorem unbroken_append_cons_iff {a b : Text} {c : Char}
    (absent : ∀ needle ∈ scriptBreaks, c ∉ needle) :
    Unbroken (a ++ c :: b) ↔ Unbroken a ∧ Unbroken b := by
  have apart (needle : Text) (listed : needle ∈ scriptBreaks) :=
    not_congr (infix_append_cons_iff (a := a) (b := b) (absent needle listed)
      (ne_nil_of_mem_scriptBreaks listed))
  simp only [Unbroken]
  rw [← forall₂_and]
  exact forall₂_congr fun needle listed => (apart needle listed).trans not_or

end Text

theorem withoutComment_isInfix (line : Text) : withoutComment line <:+: line := by
  unfold withoutComment
  split
  next cut =>
    refine (Text.trim_infix _).trans ?_
    rw [← Text.cut?_append cut]
    exact List.infix_append_left
  next => exact Text.trim_infix line

theorem not_infix_withoutComment (line : Text) : ¬"--".toList <:+: withoutComment line := by
  unfold withoutComment
  split
  next cut =>
    exact fun found => Text.not_infix_of_cut? (by decide) cut (found.trans (Text.trim_infix _))
  next uncut => exact fun found => Text.cut?_eq_none_iff.1 uncut (found.trans (Text.trim_infix _))

theorem unbroken_of_mem_splitStatements {script statement : Text}
    (mem : statement ∈ splitStatements script) : statement.Unbroken := by
  have semicolon := semicolon_not_mem_splitStatements mem
  rw [splitStatements_eq] at mem
  obtain ⟨trimmed, -⟩ := List.mem_filter.1 mem
  obtain ⟨part, field, rfl⟩ := List.mem_map.1 trimmed
  have inside := (Text.trim_infix part).trans (Text.infix_of_mem_fields field)
  -- a line feed or a comment would stand in one of the lines that are joined
  have ofLines {needle : Text} (absent : ' ' ∉ needle) (nonempty : needle ≠ [])
      (none : ∀ line ∈ script.fields '\n', ¬needle <:+: withoutComment line) :
      ¬needle <:+: part.trim := by
    intro found
    obtain ⟨fragment, kept, found⟩ :=
      (Text.infix_intercalate_iff absent nonempty).1 (found.trans inside)
    obtain ⟨line, listed, rfl⟩ := List.mem_map.1 (List.mem_filter.1 kept).1
    exact none line listed found
  refine Text.unbroken_iff.2 ⟨semicolon, ?_, ?_⟩
  · rw [← List.singleton_infix_iff]
    refine ofLines (by decide) (by decide) fun line listed found => ?_
    refine Text.not_mem_of_mem_fields listed ?_
    exact (List.singleton_infix_iff _ _).1 (found.trans (withoutComment_isInfix line))
  · exact ofLines (by decide) (by decide) fun line _ => not_infix_withoutComment line

/-! ## Statements -/

/-- A text that splitting leaves as it is. -/
structure IsStatement (s : Text) : Prop where
  nonempty : s ≠ []
  visible_head : ∀ c ∈ s.head?, isBlank c = false
  visible_last : ∀ c ∈ s.getLast?, isBlank c = false
  unbroken : s.Unbroken

theorem isStatement_of_mem_splitStatements {script statement : Text}
    (mem : statement ∈ splitStatements script) : IsStatement statement := by
  have unbroken := unbroken_of_mem_splitStatements mem
  obtain ⟨trimmed, nonempty⟩ := List.mem_filter.1 mem
  obtain ⟨part, -, rfl⟩ := List.mem_map.1 trimmed
  refine ⟨of_decide_eq_true nonempty, fun c first => ?_, fun c last => ?_, unbroken⟩
  · -- what is dropped at the end leaves the beginning
    obtain ⟨w, -, ends⟩ := Text.exists_trimEnd_append part.dropBlank
    refine stop_dropWhile (p := isBlank) part c ?_
    change c ∈ part.dropBlank.head?
    rw [ends]
    exact List.mem_head?_append_of_mem_head? first
  · rcases Text.trimEnd_eq_nil_or_concat part.dropBlank with empty | ⟨lead, d, ends, visible⟩
    · exact absurd empty (of_decide_eq_true nonempty)
    · rw [Text.trim, ends, List.getLast?_concat] at last
      cases last
      exact visible

namespace IsStatement

variable {s : Text} {statements : List Text}

theorem trim_eq (statement : IsStatement s) : s.trim = s :=
  Text.trim_of_visible statement.visible_head statement.visible_last

theorem fragments_line (statement : IsStatement s) (rest : Text) :
    fragments (s ++ ";\n".toList ++ rest) = (s ++ [';']) :: fragments rest := by
  obtain ⟨-, noLineFeed, noComment⟩ := Text.unbroken_iff.1 statement.unbroken
  have noComment : ¬"--".toList <:+: s ++ [';'] := by
    rw [Text.infix_append_cons_iff (by decide) (by decide), not_or]
    exact ⟨noComment, by decide⟩
  have whole : withoutComment (s ++ [';']) = s ++ [';'] := by
    rw [withoutComment, Text.cut?_eq_none_iff.2 noComment]
    refine Text.trim_of_visible ?_ ?_
    · obtain ⟨c, rest, rfl⟩ := List.exists_cons_of_ne_nil statement.nonempty
      exact statement.visible_head
    · rw [List.getLast?_concat]
      rintro c ⟨⟩
      decide
  have line : s ++ ";\n".toList ++ rest = (s ++ [';']) ++ '\n' :: rest := by simp
  have single : '\n' ∉ s ++ [';'] := by simp [noLineFeed]
  rw [line, fragments_append_cons, fragments, Text.kept_of_not_mem single, whole]
  simp

theorem statementsOf_eq (statement : IsStatement s) : statementsOf s = [s] := by
  have single := (Text.unbroken_iff.1 statement.unbroken).1
  refine (Text.kept_of_not_mem single).trans ?_
  rw [statement.trim_eq]
  simpa using statement.nonempty

theorem statementsOf_lines (whole : ∀ s ∈ statements, IsStatement s) :
    statementsOf (List.intercalate [' '] (statements.map (· ++ [';']))) = statements := by
  induction statements with
  | nil => rfl
  | cons s statements ih =>
    obtain ⟨here, later⟩ := List.forall_mem_cons.1 whole
    obtain ⟨w, blank, joined⟩ :=
      exists_blank_intercalate_cons (s ++ [';']) (statements.map (· ++ [';']))
    rw [List.map_cons, joined, List.append_assoc, List.singleton_append,
      statementsOf_append_cons, here.statementsOf_eq, statementsOf_blank_append blank, ih later,
      List.singleton_append]

theorem splitStatements_lines (whole : ∀ s ∈ statements, IsStatement s) :
    splitStatements (statements.flatMap (· ++ ";\n".toList)) = statements := by
  have left : fragments (statements.flatMap (· ++ ";\n".toList)) =
      statements.map (· ++ [';']) := by
    induction statements with
    | nil => decide
    | cons s statements ih =>
      obtain ⟨here, later⟩ := List.forall_mem_cons.1 whole
      rw [List.flatMap_cons, here.fragments_line, ih later, List.map_cons]
  rw [splitStatements_eq, left, statementsOf_lines whole]

end IsStatement

/-- The statements of a script, written out, are a script with the same statements. No other texts
come back as they are. -/
theorem splitStatements_normal (script : Text) :
    (∀ statement ∈ splitStatements script, statement ≠ [] ∧
      (∀ c ∈ statement.head?, isBlank c = false) ∧ (∀ c ∈ statement.getLast?, isBlank c = false) ∧
      ';' ∉ statement ∧ '\n' ∉ statement ∧ ¬"--".toList <:+: statement) ∧
    splitStatements ((splitStatements script).flatMap (· ++ ";\n".toList)) =
      splitStatements script ∧
    ∀ statements : List Text,
      splitStatements (statements.flatMap (· ++ ";\n".toList)) = statements ↔
        ∀ s ∈ statements, IsStatement s := by
  have whole {script : Text} : ∀ s ∈ splitStatements script, IsStatement s :=
    fun _ => isStatement_of_mem_splitStatements
  refine ⟨fun s listed => ?_, IsStatement.splitStatements_lines whole, fun statements => ?_⟩
  · obtain ⟨nonempty, visible_head, visible_last, unbroken⟩ := whole s listed
    exact ⟨nonempty, visible_head, visible_last, Text.unbroken_iff.1 unbroken⟩
  · refine ⟨fun same => ?_, IsStatement.splitStatements_lines⟩
    rw [← same]
    exact whole

/-! ## Statements written out -/

def writeScript (statements : List (List Token)) : Text :=
  statements.flatMap fun tokens => Token.join tokens ++ ";\n".toList

namespace Token

/-- The tokens that scripts are written of: words, literals with any contents, operators and other
marks. A mark that the splitting or a quotation begins with is none. -/
inductive Written : Token → Prop where
  | word {w : Text} : w ≠ [] → (∀ c ∈ w, isNameChar c = true) → Written ⟨w⟩
  | literal (contents : Text) : Written ⟨(Cell.text contents).literal⟩
  | operator {t : Text} : t ∈ comparisons → Written ⟨t⟩
  | mark {c : Char} : isBlank c = false → isNameChar c = false → c ≠ ';' → c ≠ '\'' → c ≠ '"' →
      Written ⟨[c]⟩

theorem paired_doubled (s : Text) : Paired (Text.replaceChar '\'' "''" s) := by
  induction s with
  | nil => exact .nil
  | cons c s ih =>
    rw [Text.replaceChar_cons]
    split
    next => exact ih.pair
    next other => exact ih.char other

theorem Written.stands {t : Token} (written : t.Written) : t.Stands := by
  rw [Stands, tokenize_text_iff]
  have nothing (p : Char → Prop) : ∀ c ∈ List.head? ([] : Text), p c := by simp
  cases written with
  | @word w nonempty named =>
    refine ⟨.word nonempty named (nothing _), ?_⟩
    rintro (rfl | rfl)
    · exact absurd (named _ (List.mem_singleton_self _)) (by decide)
    · exact absurd (named _ (List.mem_singleton_self _)) (by decide)
  | literal contents =>
    refine ⟨.literal (paired_doubled contents) (by simp), ?_⟩
    rintro (lone | lone) <;> simp [Cell.literal] at lone
  | operator listed =>
    refine ⟨.comparison listed, ?_⟩
    simp only [comparisons, List.mem_cons, List.not_mem_nil, or_false] at listed
    rcases listed with rfl | rfl | rfl | rfl <;> decide
  | mark visible unnamed _ noMark noDoubleMark =>
    refine ⟨.single visible noMark noDoubleMark unnamed (fun _ => nothing _) (nothing _), ?_⟩
    rintro (lone | lone)
    · exact noMark (List.cons.inj lone).1
    · exact noDoubleMark (List.cons.inj lone).1

theorem unbroken_literal_iff (contents : Text) :
    (Cell.text contents).literal.Unbroken ↔ contents.Unbroken := by
  have absent : ∀ needle ∈ scriptBreaks, '\'' ∉ needle := by decide
  have nothing : Text.Unbroken [] := by decide
  have body : Text.Unbroken (Text.replaceChar '\'' "''" contents) ↔ contents.Unbroken :=
    forall₂_congr fun needle listed =>
      not_congr (Text.infix_doubled_iff (absent needle listed) (ne_nil_of_mem_scriptBreaks listed))
  rw [Cell.literal, List.cons_append, ← List.nil_append (_ :: _),
    Text.unbroken_append_cons_iff absent, Text.unbroken_append_cons_iff absent, body]
  simp [nothing]

theorem Written.ofWord {w : Text} (word : w ≠ [] ∧ w.all isNameChar = true) : Written ⟨w⟩ :=
  .word word.1 (List.all_eq_true.1 word.2)

theorem Written.unbroken_iff {t : Token} (written : t.Written) :
    t.text.Unbroken ↔ ∀ contents, t = ⟨(Cell.text contents).literal⟩ → contents.Unbroken := by
  constructor
  · rintro unbroken contents rfl
    exact (unbroken_literal_iff contents).1 unbroken
  intro literals
  cases written with
  | @word w _ named =>
    have unnamed : ∀ needle ∈ scriptBreaks, needle.all isNameChar = false := by decide
    intro needle listed found
    have all : needle.all isNameChar = true :=
      List.all_eq_true.2 fun c inside => named c (found.mem inside)
    rw [unnamed needle listed] at all
    cases all
  | literal contents => exact (unbroken_literal_iff contents).2 (literals contents rfl)
  | operator listed =>
    simp only [comparisons, List.mem_cons, List.not_mem_nil, or_false] at listed
    rcases listed with rfl | rfl | rfl | rfl <;> decide
  | @mark c visible _ noSemicolon =>
    refine Text.unbroken_iff.2 ⟨?_, ?_, ?_⟩
    · exact fun mem => noSemicolon (List.mem_singleton.1 mem).symm
    · rw [List.mem_singleton]
      rintro rfl
      cases visible
    · exact fun found => absurd found.length_le (by simp)

end Token

/-! ## White space at the ends of a statement -/

theorem Begins.visible_last {t r : Text} (begins : Begins t r) :
    ∀ c ∈ t.getLast?, isBlank c = false := by
  intro c last
  have inside := List.mem_of_mem_getLast? last
  cases begins with
  | wildcard _ all =>
    rcases List.mem_cons.1 inside with rfl | digit
    · decide
    · exact isBlank_of_isDigit (all c digit)
  | comparison listed =>
    simp only [comparisons, List.mem_cons, List.not_mem_nil, or_false] at listed
    rcases listed with rfl | rfl | rfl | rfl <;> cases last <;> decide
  | word _ named => exact isBlank_of_isNameChar (named c inside)
  | single visible =>
    rw [List.mem_singleton.1 inside]
    exact visible
  | literal | name =>
    rw [List.getLast?_concat] at last
    cases last
    decide
  | openLiteral | openName =>
    cases last
    decide

namespace Token

variable {tokens : List Token}

theorem Stands.exists_cons {t : Token} (stands : t.Stands) :
    ∃ c rest, t.text = c :: rest ∧ isBlank c = false := by
  obtain ⟨c, rest, whole, visible, -⟩ := (tokenize_text_iff.1 stands.1).read
  exact ⟨c, rest, whole, visible⟩

theorem exists_join_eq_cons (nonempty : tokens ≠ []) (stands : ∀ t ∈ tokens, t.Stands) :
    ∃ c rest, join tokens = c :: rest ∧ isBlank c = false := by
  obtain ⟨t, tokens, rfl⟩ := List.exists_cons_of_ne_nil nonempty
  obtain ⟨c, rest, whole, visible⟩ := (stands t List.mem_cons_self).exists_cons
  exact ⟨c, rest ++ spaced tokens, by rw [join_cons, whole, List.cons_append], visible⟩

theorem visible_last_join (stands : ∀ t ∈ tokens, t.Stands) :
    ∀ c ∈ (join tokens).getLast?, isBlank c = false := by
  cases tokens with
  | nil => exact nofun
  | cons t tokens =>
    rw [join_cons]
    induction tokens generalizing t with
    | nil =>
      rw [spaced_nil, List.append_nil]
      exact (tokenize_text_iff.1 (stands t List.mem_cons_self).1).visible_last
    | cons u tokens ih =>
      obtain ⟨c, rest, whole, -⟩ := (stands u (by simp)).exists_cons
      rw [spaced_cons, List.getLast?_append_of_ne_nil _ (by simp),
        List.getLast?_append_of_ne_nil _ (by simp [whole])]
      exact ih u fun v listed => stands v (List.mem_cons_of_mem _ listed)

end Token

/-! ## Scripts -/

open Token (join)

variable {tokens : List Token} {statements : List (List Token)}

theorem unbroken_join_iff : (join tokens).Unbroken ↔ ∀ t ∈ tokens, t.text.Unbroken := by
  have absent : ∀ needle ∈ scriptBreaks, ' ' ∉ needle := by decide
  constructor
  · intro unbroken t listed needle break' found
    exact unbroken needle break' ((Text.infix_intercalate_iff (absent needle break')
      (ne_nil_of_mem_scriptBreaks break')).2 ⟨t.text, List.mem_map_of_mem listed, found⟩)
  · intro unbroken needle break' found
    obtain ⟨text, listed, found⟩ := (Text.infix_intercalate_iff (absent needle break')
      (ne_nil_of_mem_scriptBreaks break')).1 found
    obtain ⟨t, mem, rfl⟩ := List.mem_map.1 listed
    exact unbroken t mem needle break' found

theorem splitStatements_writeScript
    (whole : ∀ tokens ∈ statements, tokens ≠ [] ∧ (∀ t ∈ tokens, t.Stands) ∧
      (join tokens).Unbroken) :
    splitStatements (writeScript statements) = statements.map join := by
  have texts : writeScript statements = (statements.map join).flatMap (· ++ ";\n".toList) := by
    rw [writeScript, List.flatMap_map]
  rw [texts]
  refine IsStatement.splitStatements_lines fun statement listed => ?_
  obtain ⟨tokens, mem, rfl⟩ := List.mem_map.1 listed
  obtain ⟨nonempty, stands, unbroken⟩ := whole tokens mem
  obtain ⟨c, rest, begins, visible⟩ := Token.exists_join_eq_cons nonempty stands
  refine ⟨by simp [begins], ?_, Token.visible_last_join stands, unbroken⟩
  rw [begins]
  rintro d ⟨⟩
  exact visible

theorem blank_of_tokenize_eq_nil {s : Text} (none : tokenize s = []) : s.Blank := by
  obtain ⟨pieces, last, cut⟩ := exists_segmentation s
  rw [← cut.tokens] at none
  cases cut with
  | last blank => exact blank
  | token => cases none

theorem infix_of_mem_tokenize {s : Text} {t : Token} (mem : t ∈ tokenize s) : t.text <:+: s := by
  obtain ⟨pieces, last, cut⟩ := exists_segmentation s
  rw [← cut.tokens] at mem
  induction cut with
  | last => cases mem
  | token whole _ _ _ ih =>
    rw [whole]
    rcases List.mem_cons.1 mem with rfl | later
    · exact List.infix_append' _ _ _
    · exact List.infix_append_of_infix_right (List.infix_append_of_infix_right (ih later))

/-- Splitting a script gives back the tokens of its statements just where no statement is empty and
no literal has a semicolon, a line feed or two hyphens in a row. -/
theorem tokenize_splitStatements_iff (written : ∀ tokens ∈ statements, ∀ t ∈ tokens, t.Written) :
    (splitStatements (writeScript statements)).map tokenize = statements ↔
      ∀ tokens ∈ statements, tokens ≠ [] ∧
        ∀ contents, ⟨(Cell.text contents).literal⟩ ∈ tokens → contents.Unbroken := by
  constructor
  · intro same tokens listed
    rw [← same] at listed
    obtain ⟨statement, split, rfl⟩ := List.mem_map.1 listed
    have unbroken := unbroken_of_mem_splitStatements split
    refine ⟨?_, fun contents mem => ?_⟩
    · intro none
      obtain ⟨trimmed, nonempty⟩ := List.mem_filter.1 split
      obtain ⟨part, -, rfl⟩ := List.mem_map.1 trimmed
      rcases Text.trimEnd_eq_nil_or_concat part.dropBlank with empty | ⟨lead, c, ends, visible⟩
      · exact of_decide_eq_true nonempty empty
      · refine (blank_of_tokenize_eq_nil none).not_mem visible ?_
        rw [Text.trim, ends]
        exact List.mem_append_right _ (List.mem_singleton_self c)
    · exact (Token.unbroken_literal_iff contents).1 (unbroken.of_infix (infix_of_mem_tokenize mem))
  · intro unbroken
    have stands : ∀ tokens ∈ statements, ∀ t ∈ tokens, t.Stands :=
      fun tokens listed t mem => (written tokens listed t mem).stands
    rw [splitStatements_writeScript, List.map_map]
    · exact (List.map_congr_left fun tokens listed =>
        tokenize_join_of_stands (stands tokens listed)).trans (List.map_id _)
    · intro tokens listed
      refine ⟨(unbroken tokens listed).1, stands tokens listed, unbroken_join_iff.2 ?_⟩
      intro t mem
      refine (written tokens listed t mem).unbroken_iff.2 ?_
      rintro contents rfl
      exact (unbroken tokens listed).2 contents mem

/-- Doubled marks, white space and single hyphens in a literal come through. -/
theorem tokenize_splitStatements_iff_spaced_literal :
    (∀ tokens ∈ ([["SELECT", "' it''s - '", "-", "1"], ["DROP", "t"]] : List (List Token)),
      ∀ t ∈ tokens, t.Written) ∧
    (splitStatements (writeScript [["SELECT", "' it''s - '", "-", "1"], ["DROP", "t"]])).map
      tokenize = ([["SELECT", "' it''s - '", "-", "1"], ["DROP", "t"]] : List (List Token)) := by
  have written : ∀ tokens ∈ ([["SELECT", "' it''s - '", "-", "1"], ["DROP", "t"]] :
      List (List Token)), ∀ t ∈ tokens, t.Written := by
    simp only [List.forall_mem_cons, List.not_mem_nil, IsEmpty.forall_iff, implies_true, and_true]
    exact ⟨⟨.ofWord (by decide), .literal " it's - ",
      .mark (by decide) (by decide) (by decide) (by decide) (by decide), .ofWord (by decide)⟩,
      .ofWord (by decide), .ofWord (by decide)⟩
  refine ⟨written, (tokenize_splitStatements_iff written).2 fun tokens listed => ⟨?_, ?_⟩⟩
  · rintro rfl
    simp at listed
  · intro contents mem
    have all : ∀ tokens ∈ ([["SELECT", "' it''s - '", "-", "1"], ["DROP", "t"]] :
        List (List Token)), ∀ t ∈ tokens, t.text.Unbroken := by decide
    exact (Token.unbroken_literal_iff contents).1 (all tokens listed _ mem)

/-- A semicolon in a literal parts its statement in two. -/
theorem splitStatements_parts_literal :
    (∀ t ∈ (["INSERT", "INTO", "t", "VALUES", "(", "'a;b'", ")"] : List Token), t.Written) ∧
    splitStatements (writeScript [["INSERT", "INTO", "t", "VALUES", "(", "'a;b'", ")"]]) =
      ["INSERT INTO t VALUES ( 'a", "b' )"] := by
  refine ⟨?_, by decide +kernel⟩
  simp only [List.forall_mem_cons, List.not_mem_nil, IsEmpty.forall_iff, implies_true, and_true]
  exact ⟨.ofWord (by decide), .ofWord (by decide), .ofWord (by decide), .ofWord (by decide),
    .mark (by decide) (by decide) (by decide) (by decide) (by decide), .literal "a;b",
    .mark (by decide) (by decide) (by decide) (by decide) (by decide)⟩

end SqlDialect

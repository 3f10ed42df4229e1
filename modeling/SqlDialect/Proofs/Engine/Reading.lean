import SqlDialect.Engine.Grammar
import SqlDialect.Proofs.Text.Blank

/-! Which texts are read as the end of a transaction, and that a text without semicolons is one
statement at most. A parser can only pass lexemes, so a semicolon after a statement is one of the
text. -/

set_option autoImplicit false

namespace SqlDialect.Engine

/-! ## Lexemes of a text -/

namespace Lexeme

theorem text_of_isSign {sign : Text} {l : Lexeme} (is : l.isSign sign = true) : l.text = sign := by
  unfold isSign at is
  split at is
  · exact beq_iff_eq.1 is
  · cases is

theorem mem_of_mem_ofText {s : Text} {l : Lexeme} {c : Char} (mem : l ∈ ofText s)
    (inside : c ∈ l.text) : c ∈ s := by
  fun_induction ofText s with
  | case1 => cases mem
  | case2 d r blank ih => exact List.mem_of_mem_drop (ih mem)
  | case3 d r solid n scanned lexeme =>
    rw [List.mem_singleton.1 mem] at inside
    exact List.mem_of_mem_take inside
  | case4 d r solid kind n scanned lexeme legal ih =>
    rcases List.mem_cons.1 mem with rfl | later
    · exact List.mem_of_mem_take inside
    · exact List.mem_cons_of_mem _ (List.mem_of_mem_drop (ih later))

section

variable {c : Char} (letter : c.isAlpha = true)

include letter

theorem ne_of_isAlpha {d : Char} (other : d.isAlpha = false) : c ≠ d := by
  rintro rfl
  rw [letter] at other
  cases other

theorem gap_of_isAlpha (r : Text) : gap (c :: r) = 0 := by
  have wide := (toNat_of_isAlpha letter).1
  have solid : isGap c = false := by
    have space : (c == ' ') = false := beq_false_of_ne (ne_of_isAlpha letter rfl)
    rw [isGap, space, Bool.false_or, Bool.and_eq_false_iff]
    exact .inr (decide_eq_false (by omega))
  unfold gap
  split
  · rfl
  · next given => exact absurd (List.cons.inj given).1 (ne_of_isAlpha letter rfl)
  · next given => exact absurd (List.cons.inj given).1 (ne_of_isAlpha letter rfl)
  · next given =>
    have noMark : c ≠ '\uFEFF' := ne_of_isAlpha letter rfl
    rw [← (List.cons.inj given).1]
    exact if_neg (by simp [solid, noMark])

-- The letter `x` is no word where it opens a blob.
theorem scan_of_isAlpha (r : Text) (plain : c ≠ 'x' ∧ c ≠ 'X') :
    scan c r = (.word, 1 + (r.takeWhile isNameChar).length) := by
  have apart (d : Char) (other : d.isAlpha = false) : c ≠ d := ne_of_isAlpha letter other
  have noDigit : c.isDigit = false := by
    have wide := (toNat_of_isAlpha letter).1
    refine Bool.eq_false_iff.2 fun digit => ?_
    have narrow := (toNat_of_isDigit digit).2
    omega
  unfold scan
  rw [if_neg (apart '\'' rfl), if_neg (by simp [apart]), if_neg (apart '[' rfl),
    if_neg (by simp [noDigit, apart]), if_neg (by simp [plain]), if_neg (apart '?' rfl),
    if_neg (by simp [apart]), if_pos (by simp [startsName, letter])]

end

theorem ofText_word {c : Char} {word stop : Text} (letters : ∀ d ∈ c :: word, d.isAlpha = true)
    (plain : c ≠ 'x' ∧ c ≠ 'X') (ends : ∀ d ∈ stop.head?, isNameChar d = false) :
    ofText (c :: word ++ stop) = ⟨.word, c :: word, c :: word ++ stop⟩ :: ofText stop := by
  obtain ⟨letter, letters⟩ := List.forall_mem_cons.1 letters
  have named : ∀ d ∈ word, isNameChar d = true := by
    intro d mem
    simp [isNameChar, Char.isAlphanum, letters d mem]
  rw [List.cons_append, ofText, if_neg (by rw [gap_of_isAlpha letter]; exact Nat.lt_irrefl 0)]
  rw [scan_of_isAlpha letter _ plain, takeWhile_run named ends]
  simp [Nat.add_comm 1]

end Lexeme

/-- A text whose first word, behind white space, comments and semicolons, is one that commits or the
one that rolls back. It may still be refused for what follows. -/
def endsTransaction (s : Text) : Bool :=
  (statementLexemes s).head?.any fun l => l.isCommit || l.isKeyword "rollback"

/-- Statements that end a transaction. -/
def Statement.isEnd : Statement → Bool
  | commitTransaction | rollbackTransaction => true
  | _ => false

theorem mem_statementLexemes {s : Text} {l : Lexeme} {c : Char} (mem : l ∈ statementLexemes s)
    (inside : c ∈ l.text) : c ∈ s := by
  have read := (List.dropWhile_sublist _).subset mem
  exact (List.takeWhile_sublist _).subset (Lexeme.mem_of_mem_ofText read inside)

theorem statementLexemes_word_append {c : Char} {word stop : Text}
    (letters : ∀ d ∈ c :: word, d.isAlpha = true) (plain : c ≠ 'x' ∧ c ≠ 'X')
    (ends : ∀ d ∈ stop.head?, Lexeme.isNameChar d = false) :
    statementLexemes (c :: word ++ stop) =
      ⟨.word, c :: word, c :: word ++ stop.takeWhile (· ≠ '\x00')⟩ ::
        Lexeme.ofText (stop.takeWhile (· ≠ '\x00')) := by
  have within : ∀ d ∈ c :: word, (d ≠ '\x00' : Bool) = true := by
    intro d mem
    exact decide_eq_true (Lexeme.ne_of_isAlpha (letters d mem) rfl)
  have ends' : ∀ d ∈ (stop.takeWhile (· ≠ '\x00')).head?, Lexeme.isNameChar d = false := by
    cases stop with
    | nil => exact ends
    | cons d stop =>
      rw [List.takeWhile_cons]
      split
      · exact ends
      · rintro e ⟨⟩
  unfold statementLexemes
  rw [List.takeWhile_append_of_pos within, Lexeme.ofText_word letters plain ends',
    List.dropWhile_cons_of_neg (by simp [Lexeme.isSign])]

theorem statementLexemes_word {c : Char} {word : Text} (letters : ∀ d ∈ c :: word, d.isAlpha = true)
    (plain : c ≠ 'x' ∧ c ≠ 'X') :
    statementLexemes (c :: word) = [⟨.word, c :: word, c :: word⟩] := by
  have read := @statementLexemes_word_append c word [] letters plain nofun
  have nothing : Lexeme.ofText [] = [] := by rw [Lexeme.ofText]
  simpa [nothing] using read

/-- Where a word of letters comes first, it settles whether the text can end a transaction. -/
theorem endsTransaction_word {c : Char} {word stop : Text}
    (letters : ∀ d ∈ c :: word, d.isAlpha = true) (plain : c ≠ 'x' ∧ c ≠ 'X')
    (ends : ∀ d ∈ stop.head?, Lexeme.isNameChar d = false) :
    endsTransaction (c :: word ++ stop) =
      (Text.agrees (c :: word) "commit" || Text.agrees (c :: word) "end" ||
        Text.agrees (c :: word) "rollback") := by
  unfold endsTransaction
  rw [statementLexemes_word_append letters plain ends]
  rfl

/-! ## What parsers yield -/

namespace Parser

variable {α β : Type} {p : Parser α} {next : α → Parser β} {P : α → Prop} {Q : β → Prop}

theorem run_bind (input : Input) :
    (p >>= next).run input = match p.run input with
      | .error refusal => .error refusal
      | .ok (a, after) => (next a).run after := rfl

theorem run_bind_eq_ok {input after : Input} {b : β} :
    (p >>= next).run input = .ok (b, after) ↔
      ∃ a between, p.run input = .ok (a, between) ∧ (next a).run between = .ok (b, after) := by
  rw [run_bind]
  cases p.run input with
  | error refusal => simp
  | ok first =>
    simp only [Except.ok.injEq]
    constructor
    · intro last
      exact ⟨first.1, first.2, rfl, last⟩
    · rintro ⟨a, between, rfl, last⟩
      exact last

def Yields (Q : α → Prop) (p : Parser α) : Prop :=
  ∀ (input after : Input) (a : α), p.run input = .ok (a, after) → Q a

theorem Yields.pure {b : β} (holds : Q b) : Yields Q (pure b) := by
  intro input after a ran
  cases ran
  exact holds

theorem Yields.bind (each : ∀ a, Yields Q (next a)) : Yields Q (p >>= next) := by
  intro input after b ran
  obtain ⟨a, between, -, last⟩ := run_bind_eq_ok.1 ran
  exact each a between after b last

theorem Yields.reject (refusal : Refusal) : Yields Q (reject refusal) := by
  intro input after a ran
  cases ran

theorem Yields.refuse : Yields Q refuse := by
  refine .bind fun l => ?_
  split
  · exact .reject _
  · split <;> exact .reject _

theorem run_passed (see : Lexeme → Bool) (input : Input) :
    (passed see).run input =
      if input.rest.head?.any see then .ok (true, { input with rest := input.rest.drop 1 })
      else .ok (false, input) := by
  have looked : (sees see).run input = .ok (input.rest.head?.any see, input) := rfl
  unfold passed
  rw [run_bind, looked]
  by_cases seen : input.rest.head?.any see = true
  · simp only [seen, if_true]
    rfl
  · simp only [seen]
    rfl

theorem exists_of_passed_then {see : Lexeme → Bool} {yes no : Parser β} {input after : Input}
    {b : β}
    (ran : (passed see >>= fun seen => if seen = true then yes else no).run input =
      .ok (b, after)) :
    (input.rest.head?.any see = true ∧ ∃ between, yes.run between = .ok (b, after)) ∨
      no.run input = .ok (b, after) := by
  rw [run_bind, run_passed] at ran
  by_cases seen : input.rest.head?.any see = true
  · simp only [seen, if_true] at ran
    exact .inl ⟨seen, _, ran⟩
  · simp only [seen] at ran
    exact .inr ran

end Parser

/-! ## Statements by their first word -/

namespace Parser

/-- What is read after any first word but those that end a transaction. -/
abbrev GoesOn : Parser Statement → Prop := Yields (·.isEnd = false)

theorem goesOn_insert : insert.GoesOn := by
  unfold insert
  repeat' first | exact .pure rfl | refine .bind fun _ => ?_ | split

theorem goesOn_update : update.GoesOn :=
  .bind fun _ => .bind fun _ => .bind fun _ => .bind fun _ => .bind fun _ => .pure rfl

theorem goesOn_delete : delete.GoesOn :=
  .bind fun _ => .bind fun _ => .bind fun _ => .bind fun _ => .pure rfl

theorem goesOn_create (catalog : Catalog) : (create catalog).GoesOn := by
  unfold create createTable createView createIndex
  repeat' first | exact .pure rfl | exact .refuse | refine .bind fun _ => ?_ | split

theorem goesOn_drop : drop.GoesOn := by
  unfold drop
  repeat' first | exact .pure rfl | refine .bind fun _ => ?_ | split

theorem goesOn_alter (catalog : Catalog) : (alter catalog).GoesOn := by
  unfold alter
  repeat' first | exact .reject _ | exact .refuse | refine .bind fun _ => ?_ | split

/-- The end of a transaction is read after one of its words only. -/
theorem word_of_statement {catalog : Catalog} {input after : Input} {s : Statement}
    (ran : (statement catalog).run input = .ok (s, after)) (ends : s.isEnd = true) :
    input.rest.head?.any Lexeme.isCommit = true ∨
      input.rest.head?.any (Lexeme.isKeyword "rollback") = true := by
  have never {p : Parser Statement} {between : Input} (goesOn : p.GoesOn)
      (ran : p.run between = .ok (s, after)) : False := by
    have open' : s.isEnd = false := goesOn _ _ _ ran
    rw [ends] at open'
    cases open'
  unfold statement keyword? at ran
  -- the first words in the order in which they are tried
  obtain ⟨-, _, ran⟩ | ran := exists_of_passed_then ran
  · exact (never (.bind fun _ => .pure rfl) ran).elim
  obtain ⟨-, _, ran⟩ | ran := exists_of_passed_then ran
  · exact (never goesOn_insert ran).elim
  obtain ⟨-, _, ran⟩ | ran := exists_of_passed_then ran
  · exact (never goesOn_update ran).elim
  obtain ⟨-, _, ran⟩ | ran := exists_of_passed_then ran
  · exact (never goesOn_delete ran).elim
  obtain ⟨-, _, ran⟩ | ran := exists_of_passed_then ran
  · exact (never (goesOn_create catalog) ran).elim
  obtain ⟨-, _, ran⟩ | ran := exists_of_passed_then ran
  · exact (never goesOn_drop ran).elim
  obtain ⟨-, _, ran⟩ | ran := exists_of_passed_then ran
  · exact (never (goesOn_alter catalog) ran).elim
  obtain ⟨-, _, ran⟩ | ran := exists_of_passed_then ran
  · exact (never (.bind fun _ => .bind fun _ => .pure rfl) ran).elim
  obtain ⟨word, -⟩ | ran := exists_of_passed_then ran
  · exact .inl word
  obtain ⟨word, -⟩ | ran := exists_of_passed_then ran
  · exact .inr word
  exact (never .refuse ran).elim

theorem isSign_of_finish {input after : Input} (ran : finish.run input = .ok ((), after)) :
    ∀ l ∈ input.rest.head?, l.isSign ";" = true := by
  rcases input with ⟨_ | ⟨l, rest⟩, placeholders, named⟩
  · rintro l ⟨⟩
  · change (sign ";").run _ = _ at ran
    unfold sign sign? at ran
    obtain ⟨seen, -⟩ | ran := exists_of_passed_then ran
    · simpa using seen
    · exact (@Yields.refuse _ (fun _ => False) _ _ _ ran).elim

end Parser

/-! ## Statements of a text -/

section

variable {catalog : Catalog} {s rest : Text} {parsed : Parsed}

theorem exists_of_parseStatement
    (read : parseStatement catalog s = .ok (some parsed, rest)) :
    ∃ input finished,
      (Parser.statement catalog).run ⟨statementLexemes s, 0, []⟩ = .ok (parsed.statement, input) ∧
      Parser.finish.run input = .ok ((), finished) ∧ (input.rest = [] → rest = []) := by
  unfold parseStatement at read
  simp only at read
  split at read
  · cases read
  cases ran : (Parser.statement catalog).run ⟨statementLexemes s, 0, []⟩ with
  | error refusal =>
    rw [ran] at read
    cases read
  | ok outcome =>
    obtain ⟨statement, input⟩ := outcome
    rw [ran] at read
    cases closed : Parser.finish.run input with
    | error refusal =>
      simp only [bind, Except.bind, closed] at read
      cases read
    | ok finish =>
      simp only [bind, Except.bind, closed] at read
      cases read
      refine ⟨input, finish.2, rfl, closed, fun empty => ?_⟩
      have nothing : finish.2.rest = [] :=
        List.suffix_nil.1 (empty ▸ Parser.finish.leaves closed)
      simp only [nothing, empty]

theorem endsTransaction_of_parseStatement
    (read : parseStatement catalog s = .ok (some parsed, rest))
    (ends : parsed.statement.isEnd = true) : endsTransaction s = true := by
  obtain ⟨input, finished, ran, -, -⟩ := exists_of_parseStatement read
  have word := Parser.word_of_statement ran ends
  unfold endsTransaction
  cases first : (statementLexemes s).head? with
  | none => simp [first] at word
  | some l =>
    simp only [first, Option.any_some] at word ⊢
    exact Bool.or_eq_true_iff.2 word

theorem rest_of_parseStatement (plain : ';' ∉ s)
    (read : parseStatement catalog s = .ok (some parsed, rest)) : rest = [] := by
  obtain ⟨input, finished, ran, closed, empty⟩ := exists_of_parseStatement read
  apply empty
  cases left : input.rest with
  | nil => rfl
  | cons l later =>
    have semicolon := Parser.isSign_of_finish closed l (by rw [left]; rfl)
    have member : l ∈ statementLexemes s :=
      ((Parser.statement catalog).leaves ran).subset (by rw [left]; exact List.mem_cons_self)
    have inside : ';' ∈ l.text := by simp [Lexeme.text_of_isSign semicolon]
    exact absurd (mem_statementLexemes member inside) plain

end

end SqlDialect.Engine

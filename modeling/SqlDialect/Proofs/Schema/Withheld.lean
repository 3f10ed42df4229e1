import SqlDialect.Proofs.Engine.Connection
import SqlDialect.Proofs.Schema.EnumRule
import SqlDialect.Proofs.Schema.ImportRun
import SqlDialect.Proofs.Schema.Kind
import SqlDialect.Proofs.Schema.Script
import SqlDialect.Session.Embedded

/-! What an import leaves in the database when its commit is withheld.

Everything is sent within a transaction, so the database keeps what it had unless a command commits
by itself. A translated statement cannot: it still begins with its first word, and without
semicolons it is one statement.
-/

set_option autoImplicit false

namespace SqlDialect

/-! ## The first word of a translated statement -/

/-- The words that the statements begin with that are translated. -/
def Token.opensTranslatable (t : Token) : Bool := t.agrees "CREATE" || t.agrees "INSERT"

theorem keepsFirst_schemaRules {t : Token} (opens : t.opensTranslatable = true) :
    ∀ entry ∈ schemaRules.entries, entry.2.keepsFirst t = true := by
  have listed : ∀ entry ∈ schemaRules.entries,
      entry.2.keepsFirst "CREATE" = true ∧ entry.2.keepsFirst "INSERT" = true := by
    decide +kernel
  intro entry mem
  obtain ⟨create, insert⟩ := listed entry mem
  rcases Bool.or_eq_true_iff.1 opens with word | word <;> rw [Rule.keepsFirst_congr word]
  · exact create
  · exact insert

theorem opens_of_translatable {tokens : List Token}
    (kind : StatementKind.ofTokens tokens = .translatable) :
    ∃ t, tokens.head? = some t ∧ t.opensTranslatable = true := by
  cases (StatementKind.ofTokens_eq_translatable_iff tokens).1 kind with
  | object create | index create | uniqueIndex create =>
    exact ⟨_, rfl, Bool.or_eq_true_iff.2 (.inl create)⟩
  | rows insert => exact ⟨_, rfl, Bool.or_eq_true_iff.2 (.inr insert)⟩

/-! ## One command -/

section

variable {enums : EnumRegistry} {statement : Text}

/-- The types of a registry come from statements without semicolons. -/
def EnumRegistry.Plain (enums : EnumRegistry) : Prop :=
  ∀ type ∈ enums.types, ∃ declaration, EnumType.parse declaration = .ok type ∧ ';' ∉ declaration

theorem EnumRegistry.plain_empty : EnumRegistry.empty.Plain :=
  fun _ mem => absurd mem List.not_mem_nil

theorem EnumRegistry.Plain.register (declared : enums.Plain) {type : EnumType}
    (parsed : EnumType.parse statement = .ok type) (plain : ';' ∉ statement) :
    (enums.register type).Plain := by
  intro other mem
  rcases EnumRegistry.mem_put mem with rfl | earlier
  · exact ⟨statement, parsed, plain⟩
  · exact declared other earlier

theorem parse_of_declaredType? {type : EnumType} (found : declaredType? statement = some type) :
    EnumType.parse statement = .ok type := by
  unfold declaredType? at found
  split at found
  · exact eq_ok_of_mem_toOption found
  · cases found

theorem exists_word_translateSchema
    (declared : enums.Plain) (kind : StatementKind.ofText statement = .translatable) :
    ∃ word stop : Text, translateSchema enums statement = word ++ stop ∧
      (word.agrees "CREATE" = true ∨ word.agrees "INSERT" = true) ∧ ∀ c ∈ stop.head?, c = ' ' := by
  obtain ⟨t, first, opens⟩ := opens_of_translatable kind
  have fixed : (schemaRules.apply (tokenize statement)).1.head? = some t :=
    Rule.applyEach_preserves (P := (·.head? = some t))
      (fun entry listed _ => Rule.head?_apply (keepsFirst_schemaRules opens entry listed)) first
  have kept : (enums.apply (schemaRules.apply (tokenize statement)).1).1.head? = some t := by
    refine Rule.applyEach_preserves (P := (·.head? = some t)) ?_ fixed
    intro type mem tokens
    obtain ⟨declaration, parsed, -⟩ := declared type mem
    exact Rule.head?_apply ((EnumType.parse_eq_ok parsed).keepsFirst t)
  obtain ⟨rest, written⟩ := List.head?_eq_some_iff.1 kept
  refine ⟨t.text, Token.spaced rest, ?_, Bool.or_eq_true_iff.1 opens, Token.head?_spaced rest⟩
  unfold translateSchema
  rw [written, Token.join_cons]

theorem semicolon_not_mem_translateSchema
    (declared : enums.Plain) (plain : ';' ∉ statement) : ';' ∉ translateSchema enums statement := by
  have fixed : ∀ entry ∈ schemaRules.entries, ∀ t ∈ entry.2.new, ';' ∉ t.text := by
    decide +kernel
  intro written
  rcases mem_of_mem_intercalate written with space | ⟨text, listed, inside⟩
  · revert space
    decide
  obtain ⟨t, mem, rfl⟩ := List.mem_map.1 listed
  rcases Rule.mem_applyEach EnumType.rule enums.types _ 0 mem with earlier | ⟨type, known, made⟩
  · rcases RuleTable.mem_apply earlier with before | ⟨entry, ruled, made⟩
    · exact plain (mem_of_mem_tokenize before inside)
    · exact fixed entry ruled t made inside
  · obtain ⟨declaration, parsed, closed⟩ := declared type known
    exact (EnumType.parse_eq_ok parsed).semicolon_not_mem_new closed t made inside

end

/-! ## The run -/

namespace Translating

variable {σ π γ : Type} {conn : Connection σ π} {v : Contents σ γ}

/-- A statement that is not recognized is sent as it stands; if it commits, so does the import. -/
def KeepsOpen (conn : Connection σ π) (v : Contents σ γ) (statement : Text) : Prop :=
  StatementKind.ofText statement = .unrecognized → conn.Uncommitting v statement

theorem uncommitting_of_command? {enums : EnumRegistry} {statement command : Text}
    (words : conn.ReadsFirstWord v) (declared : enums.Plain) (plain : ';' ∉ statement)
    (keeps : KeepsOpen conn v statement) (sent : command? enums statement = some command) :
    conn.Uncommitting v command := by
  unfold command? at sent
  split at sent
  case h_1 kind =>
    cases sent
    obtain ⟨word, stop, written, opens, ends⟩ := exists_word_translateSchema declared kind
    have closed := semicolon_not_mem_translateSchema declared plain
    rw [written] at closed ⊢
    exact words word stop opens ends closed
  case h_2 kind =>
    cases sent
    exact keeps kind
  case h_3 => cases sent

theorem saved_execute (laws : conn.Transactional v) {command : Text}
    (uncommitting : conn.Uncommitting v command) (s : σ) :
    v.saved (execute conn command s).2 = v.saved s := by
  unfold execute
  split
  next t ran =>
    obtain ⟨within, saved, -⟩ := begun laws ran
    rw [snd_ask, uncommitting t within, saved]
  next fault t ran => exact (unmoved_of_not_begun laws ran).saved

/-- What stays true while statements are tried. -/
structure Unsaved (v : Contents σ γ) (saved : γ) (report : ImportReport) (s : σ) : Prop where
  saved : v.saved s = saved
  declared : report.enums.Plain

variable {saved : γ} {report : ImportReport} {s : σ}

theorem Unsaved.importStatement (laws : conn.Transactional v) (words : conn.ReadsFirstWord v)
    {statement : Text} (before : Unsaved v saved report s) (plain : ';' ∉ statement)
    (keeps : KeepsOpen conn v statement) :
    Unsaved v saved (importStatement (target conn) report s statement).1
      (importStatement (target conn) report s statement).2 where
  saved := by
    rw [state_importStatement]
    cases sent : command? report.enums statement with
    | none => exact before.saved
    | some command =>
      have uncommitting := uncommitting_of_command? words before.declared plain keeps sent
      exact (saved_execute laws uncommitting s).trans before.saved
  declared := by
    obtain ⟨passed, -, adds⟩ := importStatement_adds (target conn) report s statement
    rw [adds.enums]
    cases found : declaredType? statement with
    | none => exact before.declared
    | some type => exact before.declared.register (parse_of_declaredType? found) plain

theorem Unsaved.importEach (laws : conn.Transactional v) (words : conn.ReadsFirstWord v)
    {statements : List Text} (before : Unsaved v saved report s)
    (plain : ∀ s ∈ statements, ';' ∉ s) (keeps : ∀ s ∈ statements, KeepsOpen conn v s) :
    Unsaved v saved (importEach (target conn) report s statements).1
      (importEach (target conn) report s statements).2 := by
  induction statements generalizing report s with
  | nil => exact before
  | cons statement statements ih =>
    obtain ⟨plainHere, plain⟩ := List.forall_mem_cons.1 plain
    obtain ⟨keepsHere, keeps⟩ := List.forall_mem_cons.1 keeps
    exact ih (before.importStatement laws words plainHere keepsHere) plain keeps

theorem saved_commitImport (laws : conn.Transactional v)
    (withheld : (commitImport (target conn) report s).1.committed = false) :
    v.saved (commitImport (target conn) report s).2 = v.saved s := by
  unfold commitImport at withheld ⊢
  by_cases succeeded : report.succeeded = true
  · rw [if_pos succeeded] at withheld ⊢
    rcases ended : (target conn).commit s with ⟨fault | ⟨⟩, t⟩ <;> rw [ended] at withheld
    · exact (unmoved_of_not_ended laws List.mem_cons_self ended).saved
    · cases withheld
  · rw [if_neg succeeded]

theorem importSchema_eq {files : List FileContent} {statements : List Text}
    (loaded : loadStatements files = .ok statements) (s : σ) :
    importSchema conn files s =
      let sent := importStatements (target conn) statements s
      if sent.1.committed then (.ok sent.1, sent.2)
      else (endTransaction conn "ROLLBACK" sent.2).map (·.map fun () => sent.1) id := by
  unfold importSchema importFiles
  rw [loaded]
  rfl

/-- An import that ends without a commit, or in a fault, leaves what is saved as it was, unless a
statement that is not recognized commits by itself. If it ends in a report, no transaction is left
open. -/
theorem importSchema_takes_back (laws : conn.Transactional v) (words : conn.ReadsFirstWord v)
    (files : List FileContent) (s : σ)
    (keeps : ∀ statements, loadStatements files = .ok statements →
      ∀ statement ∈ statements, KeepsOpen conn v statement)
    (withheld : ∀ report, (importSchema conn files s).1 = .ok report → report.committed = false) :
    v.saved (importSchema conn files s).2 = v.saved s ∧
      ∀ report, (importSchema conn files s).1 = .ok report →
        conn.isAutocommit (importSchema conn files s).2 = true := by
  cases loaded : loadStatements files with
  | error fault =>
    have refused : importSchema conn files s = (.error fault, s) := by
      unfold importSchema importFiles
      rw [loaded]
      rfl
    rw [refused]
    exact ⟨rfl, nofun⟩
  | ok statements =>
    have start : Unsaved v (v.saved s) .empty s := ⟨rfl, EnumRegistry.plain_empty⟩
    have tried := start.importEach laws words (semicolon_not_mem_loadStatements loaded)
      (keeps statements loaded)
    rw [importSchema_eq loaded] at withheld ⊢
    simp only at withheld ⊢
    by_cases committed : (importStatements (target conn) statements s).1.committed = true
    · rw [if_pos committed] at withheld
      exact absurd committed (by simp [withheld _ rfl])
    · rw [if_neg committed]
      have saved : v.saved (importStatements (target conn) statements s).2 = v.saved s :=
        (saved_commitImport laws (Bool.eq_false_iff.2 committed)).trans tried.saved
      rcases ended : endTransaction conn "ROLLBACK" (importStatements (target conn) statements s).2
        with ⟨fault | _, t⟩
      · refine ⟨(unmoved_of_not_ended laws (by simp) ended).saved.trans saved, nofun⟩
      · obtain ⟨closed, kept⟩ := rolledBack laws ended
        exact ⟨kept.trans saved, fun _ _ => closed⟩

/-! ## Scripts that end the transaction themselves -/

section

open Engine (Database)

/-- A script that rolls back between two statements, the second of which is refused for it. -/
def undoing : FileContent :=
  .ofText "CREATE TABLE a (x INT);\nROLLBACK;\nINSERT INTO a VALUES (1);"

theorem importSchema_takes_back_rollback :
    (importSchema Database.connection [undoing] (.ofCatalog .empty)).1.toOption.map
        (fun report => (report.executed, report.committed)) = some (2, false) ∧
      (importSchema Database.connection [undoing] (.ofCatalog .empty)).2.saved = .empty := by
  have ran : (importSchema Database.connection [undoing] (.ofCatalog .empty)).1.toOption.map
      (fun report => (report.executed, report.committed)) = some (2, false) := by
    decide +kernel
  have loaded : loadStatements [undoing] =
      .ok ["CREATE TABLE a (x INT)", "ROLLBACK", "INSERT INTO a VALUES (1)"] := by
    decide +kernel
  have kinds : StatementKind.ofText "CREATE TABLE a (x INT)" ≠ .unrecognized ∧
      StatementKind.ofText "INSERT INTO a VALUES (1)" ≠ .unrecognized := by
    decide +kernel
  have laws := Database.transactional
  refine ⟨ran, (importSchema_takes_back laws Database.readsFirstWord _ _ ?_ ?_).1⟩
  · rintro statements given statement mem unrecognized
    cases loaded.symm.trans given
    simp only [List.mem_cons, List.not_mem_nil, or_false] at mem
    rcases mem with rfl | rfl | rfl
    · exact absurd unrecognized kinds.1
    · exact Connection.uncommitting_rollback laws
    · exact absurd unrecognized kinds.2
  · intro report imported
    rw [imported] at ran
    exact congrArg Prod.snd (Option.some.inj ran)

/-- A statement that commits is not recognized, and yet what came before it is kept. -/
theorem importSchema_keeps_committed :
    (importSchema Database.connection [.ofText "CREATE TABLE a (x INT);\nCOMMIT;"]
        (.ofCatalog .empty)).1.toOption.map ImportReport.committed = some false ∧
      (importSchema Database.connection [.ofText "CREATE TABLE a (x INT);\nCOMMIT;"]
        (.ofCatalog .empty)).2.saved.tables.map Engine.Table.name = ["a".toList] := by
  decide +kernel

end

end Translating

end SqlDialect

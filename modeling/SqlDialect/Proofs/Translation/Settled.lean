import SqlDialect.Proofs.Rule.Settled
import SqlDialect.Proofs.Schema.ImportRun
import SqlDialect.Proofs.Schema.Kind
import SqlDialect.Proofs.Translation.Rereading

/-! Translated schemas translated again.

The fixed rules find nothing in what they have written. Nor do they change what a statement is, so
a translated schema is sent as it stands.
-/

set_option autoImplicit false

namespace SqlDialect

theorem settles_schemaRules : schemaRules.Settles := by decide +kernel

theorem tokenize_translateSchema {statement : Text}
    (closed : ∀ t ∈ tokenize statement, ¬t.IsLone) :
    tokenize (translateSchema .empty statement) = (schemaRules.apply (tokenize statement)).1 :=
  tokenize_join_of_stands
    (RuleTable.stands_apply stands_schemaRules (stands_of_mem_tokenize closed))

theorem apply_tokenize_translateSchema {statement : Text}
    (closed : ∀ t ∈ tokenize statement, ¬t.IsLone) :
    schemaRules.apply (tokenize (translateSchema .empty statement)) =
      (tokenize (translateSchema .empty statement), 0) := by
  rw [tokenize_translateSchema closed, settles_schemaRules.apply_apply]

theorem translateSchema_translateSchema {statement : Text}
    (closed : ∀ t ∈ tokenize statement, ¬t.IsLone) :
    translateSchema .empty (translateSchema .empty statement) =
      translateSchema .empty statement := by
  have again : translateSchema .empty (translateSchema .empty statement) =
      Token.join (schemaRules.apply (tokenize (translateSchema .empty statement))).1 := rfl
  rw [again, apply_tokenize_translateSchema closed, tokenize_translateSchema closed]
  rfl

/-! ## Kinds -/

def StatementKind.keywords : List Token :=
  ["CREATE", "TABLE", "VIEW", "INDEX", "UNIQUE", "INSERT", "INTO"]

open StatementKind (Translatable)

/-- A rule that looks for none of the keywords first, and puts in nothing that tells an index that
is passed over. -/
def Rule.KeepsKind (r : Rule) : Prop :=
  (∀ keyword ∈ StatementKind.keywords,
      ∀ p ∈ r.old.head?, p.isWildcard = false ∧ p.agrees keyword = false) ∧
    (∀ t ∈ r.new, t.isWildcard = false ∧ t.agrees "WHERE" = false) ∧
    r.new.head?.any (!StatementKind.isSpecialIndex ·.text) = true

instance (r : Rule) : Decidable r.KeepsKind := inferInstanceAs (Decidable (_ ∧ _ ∧ _))

namespace Rule.KeepsKind

variable {r : Rule} {tokens : List Token}

theorem apply_cons (keeps : r.KeepsKind) {t keyword : Token}
    (same : t.agrees keyword = true) (listed : keyword ∈ StatementKind.keywords)
    (rest : List Token) : (r.apply (t :: rest)).1 = t :: (r.apply rest).1 := by
  refine apply_cons_of_not_first (fun p first => ?_) rest
  rw [Token.agrees_congr same]
  exact keeps.1 keyword listed p first

theorem ofIndex_apply (keeps : r.KeepsKind) (kind : StatementKind.ofIndex tokens = .translatable) :
    StatementKind.ofIndex (r.apply tokens).1 = .translatable := by
  obtain ⟨-, made, head⟩ := keeps
  obtain ⟨name, begins, plainName⟩ := (Option.any_eq_true _ _).1 head
  rw [StatementKind.ofIndex_eq_translatable_iff] at kind ⊢
  obtain ⟨ordinary, whole⟩ := kind
  constructor
  · have nonempty : r.new ≠ [] := List.ne_nil_of_mem (List.mem_of_mem_head? begins)
    rw [apply_eq_rewrite]
    rcases head?_rewrite r.old (fun t mem => (made t mem).1) nonempty tokens with
      kept | replaced
    · rwa [kept]
    · rw [replaced, begins]
      rintro _ ⟨⟩
      simpa using plainName
  · intro t mem
    rcases mem_apply mem with before | new
    · exact whole t before
    · exact (made t new).2

theorem translatable_apply (keeps : r.KeepsKind) (form : Translatable tokens) :
    Translatable (r.apply tokens).1 := by
  cases form with
  | object create kind =>
    rw [keeps.apply_cons create (by decide)]
    rcases kind with table | view
    · rw [keeps.apply_cons table (by decide)]
      exact .object create (.inl table)
    · rw [keeps.apply_cons view (by decide)]
      exact .object create (.inr view)
  | rows insert into =>
    rw [keeps.apply_cons insert (by decide), keeps.apply_cons into (by decide)]
    exact .rows insert into
  | index create index kind =>
    rw [keeps.apply_cons create (by decide), keeps.apply_cons index (by decide)]
    exact .index create index (keeps.ofIndex_apply kind)
  | uniqueIndex create unique index kind =>
    rw [keeps.apply_cons create (by decide), keeps.apply_cons unique (by decide),
      keeps.apply_cons index (by decide)]
    exact .uniqueIndex create unique index (keeps.ofIndex_apply kind)

end Rule.KeepsKind

theorem keepsKind_schemaRules : ∀ entry ∈ schemaRules.entries, entry.2.KeepsKind := by
  decide +kernel

theorem ofText_translateSchema {statement : Text} (closed : ∀ t ∈ tokenize statement, ¬t.IsLone)
    (kind : StatementKind.ofText statement = .translatable) :
    StatementKind.ofText (translateSchema .empty statement) = .translatable := by
  rw [StatementKind.ofText, tokenize_translateSchema closed,
    StatementKind.ofTokens_eq_translatable_iff]
  exact Rule.applyEach_preserves (P := Translatable)
    (fun entry listed _ form => (keepsKind_schemaRules entry listed).translatable_apply form)
    ((StatementKind.ofTokens_eq_translatable_iff _).1 kind)

/-! ## What is sent -/

theorem commands_of_declaredTypes_eq_nil {statements : List Text}
    (undeclared : declaredTypes statements = []) :
    commands statements = statements.filterMap (command? .empty) := by
  induction statements using List.reverseRecOn with
  | nil => rfl
  | append_singleton statements statement ih =>
    rw [declaredTypes_concat, List.append_eq_nil_iff] at undeclared
    rw [commands_concat, ih undeclared.1, List.filterMap_append, filterMap_singleton, commandAfter?,
      undeclared.1]
    rfl

theorem command?_command? {statement command : Text}
    (closed : ∀ t ∈ tokenize statement, ¬t.IsLone)
    (sent : command? .empty statement = some command) :
    command? .empty command = some command ∧ declaredType? command = none := by
  unfold command? at sent
  split at sent
  next kind =>
    cases sent
    have again := ofText_translateSchema closed kind
    unfold command? declaredType?
    rw [again]
    exact ⟨congrArg some (translateSchema_translateSchema closed), rfl⟩
  next kind =>
    cases sent
    unfold command? declaredType?
    rw [kind]
    exact ⟨rfl, rfl⟩
  next => cases sent

/-- In a translated statement no rule finds anything, so it stays as it is; and a script of what was
sent is sent as it stands. -/
theorem translateSchema_idempotent :
    (∀ statement, (∀ t ∈ tokenize statement, ¬t.IsLone) →
      (schemaRules.apply (tokenize (translateSchema .empty statement))).2 = 0 ∧
      translateSchema .empty (translateSchema .empty statement) =
        translateSchema .empty statement) ∧
    ∀ statements, (∀ statement ∈ statements, ∀ t ∈ tokenize statement, ¬t.IsLone) →
      declaredTypes statements = [] → commands (commands statements) = commands statements := by
  refine ⟨fun statement closed =>
    ⟨by rw [apply_tokenize_translateSchema closed], translateSchema_translateSchema closed⟩, ?_⟩
  intro statements closed undeclared
  rw [commands_of_declaredTypes_eq_nil undeclared]
  have again : ∀ command ∈ statements.filterMap (command? .empty),
      command? .empty command = some command ∧ declaredType? command = none := by
    intro command sent
    obtain ⟨statement, listed, made⟩ := List.mem_filterMap.1 sent
    exact command?_command? (closed statement listed) made
  generalize statements.filterMap (command? .empty) = sent at again
  have none : declaredTypes sent = [] :=
    List.filterMap_eq_nil_iff.2 fun command listed => (again command listed).2
  rw [commands_of_declaredTypes_eq_nil none, List.filterMap_congr fun c mem => (again c mem).1]
  exact List.filterMap_some

/-- A rule that makes the statement shorter, one whose replacement has quotation marks, and a
statement that is passed over. -/
theorem translateSchema_idempotent_table :
    let table : Text := "CREATE TABLE t (id SERIAL PRIMARY KEY, span text DEFAULT INTERVAL '0')"
    let script : List Text := ["SET x = 1", "CREATE INDEX commit ON t (a)", "VACUUM"]
    translateSchema .empty table =
        "CREATE TABLE t ( id INTEGER PRIMARY KEY , span text DEFAULT 0 )" ∧
      (schemaRules.apply (tokenize table)).2 = 2 ∧
      (schemaRules.apply (tokenize (translateSchema .empty table))).2 = 0 ∧
      translateSchema .empty (translateSchema .empty table) = translateSchema .empty table ∧
      commands script = ["CREATE INDEX \"commit\" ON t ( a )", "VACUUM"] ∧
      commands (commands script) = commands script := by
  intro table script
  obtain ⟨again, resent⟩ := translateSchema_idempotent
  obtain ⟨none, same⟩ := again table (by decide +kernel)
  exact ⟨by decide +kernel, by decide +kernel, none, same, by decide +kernel,
    resent script (by decide +kernel) (List.filterMap_eq_nil_iff.2 (by decide +kernel))⟩

end SqlDialect

import SqlDialect.Engine.Connection
import SqlDialect.Proofs.Engine.Transaction
import SqlDialect.Proofs.Session.Connection

/-! The engine at hand behind a connection.

It has what is known of every connection. A text without semicolons, and without a word at its
beginning that ends a transaction, leaves the transaction alone, and no text has an effect when it
is refused.
-/

set_option autoImplicit false

namespace SqlDialect.Engine

/-! ## Commands -/

namespace Catalog

theorem compile_begin (catalog : Catalog) :
    catalog.compile "BEGIN" = .ok (some (.beginTransaction, 0), []) := by
  have read : statementLexemes "BEGIN" = [⟨.word, "BEGIN", "BEGIN"⟩] :=
    @statementLexemes_word 'B' "EGIN" (List.all_eq_true.1 (by decide)) (by decide)
  unfold compile parseStatement
  rw [read]
  rfl

theorem compile_commit (catalog : Catalog) :
    catalog.compile "COMMIT" = .ok (some (.commitTransaction, 0), []) := by
  have read : statementLexemes "COMMIT" = [⟨.word, "COMMIT", "COMMIT"⟩] :=
    @statementLexemes_word 'C' "OMMIT" (List.all_eq_true.1 (by decide)) (by decide)
  unfold compile parseStatement
  rw [read]
  rfl

theorem compile_rollback (catalog : Catalog) :
    catalog.compile "ROLLBACK" = .ok (some (.rollbackTransaction, 0), []) := by
  have read : statementLexemes "ROLLBACK" = [⟨.word, "ROLLBACK", "ROLLBACK"⟩] :=
    @statementLexemes_word 'R' "OLLBACK" (List.all_eq_true.1 (by decide)) (by decide)
  unfold compile parseStatement
  rw [read]
  rfl

end Catalog

namespace Database

def contents : Contents Database Catalog := ⟨Database.saved, Database.catalog⟩

theorem isAutocommit_eq_false {db : Database} :
    connection.isAutocommit db = false ↔ db.inTransaction = true :=
  Bool.not_eq_false' _ ▸ .rfl

theorem batch_of_compile {db : Database} {text : Text} {action : Action} {placeholders : Nat}
    (compiled : db.catalog.compile text = .ok (some (action, placeholders), [])) :
    connection.batch text db =
      (db.act [] action).map
        (fun answers => (answers.map fun _ => ()).mapError Refusal.toError) id := by
  change (db.runAll text).map (·.mapError Refusal.toError) id = _
  rw [runAll_of_compile compiled]
  rfl

theorem transactional : connection.Transactional contents where
  outside := by
    rintro ⟨saved, _ | working, changes, lastRowid⟩ outside
    · rfl
    · cases outside
  begins := by
    rintro ⟨saved, _ | working, changes, lastRowid⟩ t ran <;>
      rw [batch_of_compile (Catalog.compile_begin _)] at ran <;> cases ran
    exact ⟨rfl, rfl, rfl, rfl⟩
  commits := by
    rintro ⟨saved, _ | working, changes, lastRowid⟩ t within ran
    · cases within
    · rw [batch_of_compile (Catalog.compile_commit _)] at ran
      cases ran
      exact ⟨rfl, rfl⟩
  rollsBack := by
    rintro ⟨saved, _ | working, changes, lastRowid⟩ t within ran
    · cases within
    · rw [batch_of_compile (Catalog.compile_rollback _)] at ran
      cases ran
      exact ⟨rfl, rfl⟩
  refuses := by
    rintro command ⟨saved, working, changes, lastRowid⟩ t error listed ran
    simp only [List.mem_cons, List.not_mem_nil, or_false] at listed
    rcases listed with rfl | rfl | rfl
    · rw [batch_of_compile (Catalog.compile_begin _)] at ran
      cases working <;> cases ran
      exact .refl _
    · rw [batch_of_compile (Catalog.compile_commit _)] at ran
      cases working <;> cases ran
      exact .refl _
    · rw [batch_of_compile (Catalog.compile_rollback _)] at ran
      cases working <;> cases ran
      exact .refl _
  prepares _ _ := .refl _
  tells _ := .refl _

/-! ## Statements -/

theorem text_of_connection_prepare {text : Text} {prepared : Prepared}
    (read : ∃ db after, connection.prepare text db = (.ok prepared, after)) :
    prepared.text = text := by
  obtain ⟨db, after, read⟩ := read
  exact text_of_prepare (mapError_eq_ok.1 (congrArg Prod.fst read))

theorem runBound_eq (db : Database) (prepared : Prepared) (bound : List Datum) :
    (∃ given expected, runBound prepared bound db = (.error (.parameterCount given expected), db)) ∨
      runBound prepared bound db = (db.run prepared bound).map (·.mapError Refusal.toError) id := by
  unfold runBound
  split
  · exact .inr rfl
  · exact .inl ⟨_, _, rfl⟩

theorem snd_executeBound (db : Database) (prepared : Prepared) (bound : List Datum) :
    (executeBound prepared bound db).2 = (runBound prepared bound db).2 := by
  unfold executeBound
  split
  next ran => rw [ran]
  next ran => rw [ran]
  next ran => rw [ran]

variable {db : Database} {prepared : Prepared} {text : Text}

theorem stillOpen_runBound (within : db.inTransaction = true)
    (goesOn : endsTransaction prepared.text = false) (bound : List Datum) :
    db.StillOpen (runBound prepared bound db).2 := by
  rcases runBound_eq db prepared bound with ⟨given, expected, ran⟩ | ran <;> rw [ran]
  · exact ⟨within, rfl⟩
  · exact stillOpen_run within goesOn bound

theorem uncontrolled (plain : ';' ∉ text) (goesOn : endsTransaction text = false) :
    connection.Uncontrolled contents text := by
  intro db after within does
  replace within := isAutocommit_eq_false.1 within
  have kept : db.StillOpen after := by
    cases does with
    | batch => exact stillOpen_runAll within plain goesOn
    | execute read bound =>
      rw [← text_of_connection_prepare read] at goesOn
      have kept := stillOpen_runBound within goesOn bound
      rwa [← snd_executeBound] at kept
    | query read bound =>
      rw [← text_of_connection_prepare read] at goesOn
      exact stillOpen_runBound within goesOn bound
  exact ⟨isAutocommit_eq_false.2 kept.within, kept.saved⟩

-- Neither word begins with the letter that may open a blob, and neither ends a transaction.
theorem endsTransaction_of_opens {word stop : Text}
    (opens : word.agrees "CREATE" = true ∨ word.agrees "INSERT" = true)
    (ends : ∀ c ∈ stop.head?, c = ' ') : endsTransaction (word ++ stop) = false := by
  have folded : word.fold = "create".toList ∨ word.fold = "insert".toList :=
    opens.imp (fun same => Text.agrees_iff.1 same) (fun same => Text.agrees_iff.1 same)
  have known : word.fold.all (fun l => l.isAlpha && l != 'x') = true := by
    rcases folded with same | same <;> rw [same] <;> decide +kernel
  have letters : ∀ d ∈ word, d.isAlpha = true ∧ d ≠ 'x' ∧ d ≠ 'X' := by
    intro d mem
    have lower := List.all_eq_true.1 known d.toLower (List.mem_map_of_mem mem)
    obtain ⟨letter, other⟩ := Bool.and_eq_true_iff.1 lower
    refine ⟨isAlpha_of_toLower letter, ?_, ?_⟩ <;> rintro rfl <;> cases other
  have unlike : (word.agrees "commit" || word.agrees "end" || word.agrees "rollback") = false := by
    unfold Text.agrees
    rcases folded with same | same <;> rw [same] <;> decide +kernel
  have named : ∀ d ∈ stop.head?, Lexeme.isNameChar d = false := by
    intro d first
    rw [ends d first]
    rfl
  cases word with
  | nil => rcases folded with empty | empty <;> cases empty
  | cons c word =>
    rw [endsTransaction_word (fun d mem => (letters d mem).1) (letters c List.mem_cons_self).2
      named, unlike]

theorem readsFirstWord : connection.ReadsFirstWord contents := by
  intro word stop opens ends plain db within
  have goesOn := endsTransaction_of_opens opens ends
  exact (uncontrolled plain goesOn db _ within .batch).2

/-! ## Refusals -/

theorem SameContent.content_eq {after : Database} (same : db.SameContent after) :
    contents.content after = contents.content db := by
  change after.working.getD after.saved = db.working.getD db.saved
  rw [same.saved, same.working]

theorem sameContent_runBound {bound : List Datum} {error : ConnectionError}
    (refused : (runBound prepared bound db).1 = .error error) :
    db.SameContent (runBound prepared bound db).2 := by
  rcases runBound_eq db prepared bound with ⟨given, expected, ran⟩ | ran <;> rw [ran] at refused ⊢
  · exact .refl db
  · rcases done : (db.run prepared bound).1 with refusal | answers
    · exact sameContent_run done
    · change (db.run prepared bound).1.mapError _ = _ at refused
      rw [done] at refused
      cases refused

theorem atomic (prepared : Prepared) (db : Database) :
    connection.Atomic contents prepared db := by
  intro bound error after ran refused
  change executeBound prepared bound db = _ at ran
  unfold executeBound at ran
  split at ran
  · cases ran
  · cases ran
    cases refused
  · next same =>
    cases ran
    have kept := sameContent_runBound (congrArg Prod.fst same)
    rw [same] at kept
    exact kept.content_eq

end Database

/-! ## Numbers of rows -/

/-- The numbers of the rows that a change inserts. -/
def Change.inserted (c : Change) (bound : List Datum) : List Int64 :=
  match c.edit with
  | .insert _ => (c.outcome bound).touched.map Row.rowid
  | _ => []

namespace Database

def inserted (prepared : Prepared) (bound : List Datum) (db : Database) : List Int64 :=
  match db.catalog.compile prepared.text with
  | .ok (some (.change c, _), _) => c.inserted bound
  | _ => []

end Database

end SqlDialect.Engine

import SqlDialect.Engine.Database
import SqlDialect.Proofs.Engine.Reading
import SqlDialect.Proofs.Except

/-! A transaction while it is open: only the texts that begin with a word for it end it, and nothing
else changes what is saved. What is refused changes no content. -/

set_option autoImplicit false

namespace SqlDialect.Engine

/-- Actions that end a transaction. -/
def Action.isEnd : Action → Bool
  | commitTransaction | rollbackTransaction => true
  | _ => false

namespace Catalog

variable {catalog : Catalog}

theorem isEnd_of_action {parsed : Parsed} {action : Action}
    (acts : catalog.action parsed = .ok action) : action.isEnd = parsed.statement.isEnd := by
  have never {α : Type} {f : α → Action} {x : Except Refusal α} (made : x.map f = .ok action)
      (plain : ∀ a, (f a).isEnd = false) : action.isEnd = false := by
    obtain ⟨a, -, rfl⟩ := exists_of_map_eq_ok made
    exact plain a
  unfold Catalog.action at acts
  split at acts <;> rename_i same <;> rw [same]
  case h_1 | h_2 | h_3 => cases acts; rfl
  case h_6 =>
    split at acts
    · exact never acts fun _ => rfl
    · cases acts
  all_goals exact never acts fun _ => rfl

theorem exists_of_compile {text rest : Text} {action : Action} {placeholders : Nat}
    (compiled : catalog.compile text = .ok (some (action, placeholders), rest)) :
    ∃ parsed, parseStatement catalog text = .ok (some parsed, rest) ∧
      catalog.action parsed = .ok action := by
  unfold compile at compiled
  rcases read : parseStatement catalog text with refusal | ⟨_ | parsed, after⟩ <;>
    rw [read] at compiled
  · cases compiled
  · cases compiled
  · rcases acts : catalog.action parsed with refusal | other <;>
      simp only [bind, Except.bind, acts] at compiled <;> cases compiled
    exact ⟨parsed, rfl, acts⟩

/-- A text that does not begin with a word that ends a transaction does not end one. -/
theorem isEnd_of_compile {text rest : Text} {action : Action} {placeholders : Nat}
    (compiled : catalog.compile text = .ok (some (action, placeholders), rest))
    (goesOn : endsTransaction text = false) : action.isEnd = false := by
  obtain ⟨parsed, read, acts⟩ := exists_of_compile compiled
  rw [isEnd_of_action acts]
  refine Bool.eq_false_iff.2 fun ends => ?_
  rw [endsTransaction_of_parseStatement read ends] at goesOn
  cases goesOn

theorem compile_nil (catalog : Catalog) : catalog.compile [] = .ok (none, []) := by
  have nothing : statementLexemes [] = [] := by simp [statementLexemes, Lexeme.ofText]
  unfold compile parseStatement
  rw [nothing]
  rfl

end Catalog

namespace Database

variable {db : Database}

theorem inTransaction_withCatalog (db : Database) (catalog : Catalog) :
    (db.withCatalog catalog).inTransaction = db.inTransaction := by
  obtain ⟨saved, _ | working, changes, lastRowid⟩ := db <;> rfl

theorem saved_withCatalog (within : db.inTransaction = true) (catalog : Catalog) :
    (db.withCatalog catalog).saved = db.saved := by
  unfold withCatalog
  rw [if_pos within]

theorem saved_change (within : db.inTransaction = true) (c : Change) (bound : List Datum) :
    (db.change c bound).2.saved = db.saved := by
  unfold change
  simp only
  split
  · rfl
  · exact saved_withCatalog within _

theorem inTransaction_change (db : Database) (c : Change) (bound : List Datum) :
    (db.change c bound).2.inTransaction = db.inTransaction := by
  unfold change
  simp only
  split
  · rfl
  · exact inTransaction_withCatalog db _

/-- In a transaction, nothing but its end changes what is saved. -/
theorem saved_act (within : db.inTransaction = true) (bound : List Datum) {action : Action}
    (goesOn : action.isEnd = false) : (db.act bound action).2.saved = db.saved := by
  cases action with
  | beginTransaction =>
    unfold act beginTransaction
    rw [if_pos within]
    rfl
  | commitTransaction | rollbackTransaction => cases goesOn
  | define step =>
    cases step with
    | error refusal => rfl
    | ok catalog => exact saved_withCatalog within catalog
  | change c => exact saved_change within c bound
  | query q => rfl

theorem inTransaction_act (within : db.inTransaction = true) (bound : List Datum) {action : Action}
    (goesOn : action.isEnd = false) : (db.act bound action).2.inTransaction = true := by
  cases action with
  | beginTransaction =>
    unfold act beginTransaction
    rw [if_pos within]
    exact within
  | commitTransaction | rollbackTransaction => cases goesOn
  | define step =>
    cases step with
    | error refusal => exact within
    | ok catalog => exact (inTransaction_withCatalog db catalog).trans within
  | change c => exact (inTransaction_change db c bound).trans within
  | query q => exact within

structure StillOpen (db after : Database) : Prop where
  within : after.inTransaction = true
  saved : after.saved = db.saved

section

variable (within : db.inTransaction = true)

include within

theorem stillOpen_act (bound : List Datum) {action : Action} (goesOn : action.isEnd = false) :
    StillOpen db (db.act bound action).2 :=
  ⟨inTransaction_act within bound goesOn, saved_act within bound goesOn⟩

theorem stillOpen_run {prepared : Prepared} (goesOn : endsTransaction prepared.text = false)
    (bound : List Datum) : StillOpen db (db.run prepared bound).2 := by
  unfold run
  split
  · exact ⟨within, rfl⟩
  · exact ⟨within, rfl⟩
  · next compiled => exact stillOpen_act within bound (Catalog.isEnd_of_compile compiled goesOn)

end

/-- Two databases of one content, which may have counted other rows and inserted another last. -/
structure SameContent (db after : Database) : Prop where
  saved : after.saved = db.saved
  working : after.working = db.working

theorem SameContent.refl (db : Database) : SameContent db db := ⟨rfl, rfl⟩

section

variable {bound : List Datum} {refusal : Refusal}

theorem sameContent_change {c : Change} (refused : (db.change c bound).1 = .error refusal) :
    SameContent db (db.change c bound).2 := by
  unfold change at refused ⊢
  simp only at refused ⊢
  split
  · exact ⟨rfl, rfl⟩
  · next accepted =>
    rw [accepted] at refused
    cases refused

theorem sameContent_act {action : Action} (refused : (db.act bound action).1 = .error refusal) :
    SameContent db (db.act bound action).2 := by
  obtain ⟨saved, working, changes, lastRowid⟩ := db
  cases action with
  | beginTransaction =>
    cases working with
    | none => cases refused
    | some catalog => exact .refl _
  | commitTransaction | rollbackTransaction =>
    cases working with
    | none => exact .refl _
    | some catalog => cases refused
  | define step =>
    cases step with
    | error other => exact .refl _
    | ok catalog => cases refused
  | change c => exact sameContent_change refused
  | query q => exact .refl _

theorem sameContent_run {prepared : Prepared}
    (refused : (db.run prepared bound).1 = .error refusal) :
    SameContent db (db.run prepared bound).2 := by
  unfold run at refused ⊢
  split
  · exact .refl _
  · exact .refl _
  · next compiled =>
    rw [compiled] at refused
    exact sameContent_act refused

end

theorem exists_of_prepareWithin {fuel : Nat} {text : Text} {made : Option Prepared}
    (read : prepareWithin (fuel + 1) db text = .ok made) :
    ∃ first rest, db.catalog.compile text = .ok (first, rest) ∧
      made = first.map fun (action, placeholders) => ⟨text, action.columns, placeholders⟩ := by
  unfold prepareWithin at read
  rcases compiled : db.catalog.compile text with refusal | ⟨first, rest⟩ <;> rw [compiled] at read
  · cases read
  · refine ⟨first, rest, rfl, ?_⟩
    simp only [bind, Except.bind] at read
    split at read
    · split at read
      · cases read
      · split at read
        · cases read
        · exact (Except.ok.inj read).symm
    · exact (Except.ok.inj read).symm

theorem text_of_prepareWithin {fuel : Nat} {text : Text} {prepared : Prepared}
    (read : prepareWithin fuel db text = .ok (some prepared)) : prepared.text = text := by
  cases fuel with
  | zero => cases read
  | succ fuel =>
    obtain ⟨first, rest, -, made⟩ := exists_of_prepareWithin read
    obtain ⟨statement, -, rfl⟩ := Option.map_eq_some_iff.1 made.symm
    rfl

theorem text_of_prepare {text : Text} {prepared : Prepared}
    (read : db.prepare text = .ok prepared) : prepared.text = text := by
  unfold prepare at read
  rcases made : prepareWithin (text.length + 1) db text with refusal | _ | first <;>
    rw [made] at read <;> cases read
  · rfl
  · exact text_of_prepareWithin made

theorem runAllWithin_nil (fuel : Nat) (db : Database) : runAllWithin fuel db [] = (.ok (), db) := by
  cases fuel with
  | zero => rfl
  | succ fuel => rw [runAllWithin, Catalog.compile_nil]

theorem runAll_of_compile {text : Text} {action : Action} {placeholders : Nat}
    (compiled : db.catalog.compile text = .ok (some (action, placeholders), [])) :
    db.runAll text = (db.act [] action).map (·.map fun _ => ()) id := by
  unfold runAll runAllWithin
  rw [compiled]
  simp only
  rcases db.act [] action with ⟨refusal | answers, after⟩
  · rfl
  · exact runAllWithin_nil _ after

theorem stillOpen_runAll (within : db.inTransaction = true) {text : Text} (plain : ';' ∉ text)
    (goesOn : endsTransaction text = false) : StillOpen db (db.runAll text).2 := by
  rcases compiled : db.catalog.compile text with refusal | ⟨_ | ⟨action, placeholders⟩, rest⟩
  · rw [runAll, runAllWithin, compiled]
    exact ⟨within, rfl⟩
  · rw [runAll, runAllWithin, compiled]
    exact ⟨within, rfl⟩
  · obtain ⟨parsed, read, -⟩ := Catalog.exists_of_compile compiled
    obtain rfl := rest_of_parseStatement plain read
    rw [runAll_of_compile compiled]
    exact stillOpen_act within [] (Catalog.isEnd_of_compile compiled goesOn)

end Database

end SqlDialect.Engine

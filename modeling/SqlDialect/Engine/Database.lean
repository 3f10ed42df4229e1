import SqlDialect.Engine.Definition
import SqlDialect.Engine.Grammar

/-! A database: what is saved in it, and what one connection makes of it.

Within a transaction all statements work on a copy of the catalog, which is saved when the
transaction is committed. Outside of one, every statement is saved by itself.
-/

set_option autoImplicit false

namespace SqlDialect.Engine

inductive Action where
  | beginTransaction
  | commitTransaction
  | rollbackTransaction
  | define (step : Catalog.Step)
  | change (c : Change)
  | query (q : Query)

def Action.columns : Action → List ResultColumn
  | change c => c.returning
  | query q => q.results
  | _ => []

namespace Catalog

def action (catalog : Catalog) (parsed : Parsed) : Except Refusal Action :=
  match parsed.statement with
  | .beginTransaction => .ok .beginTransaction
  | .commitTransaction => .ok .commitTransaction
  | .rollbackTransaction => .ok .rollbackTransaction
  | .createTable ifNotExists table columns rules =>
    (catalog.createTable parsed.source ifNotExists table columns rules).map .define
  | .createIndex isUnique ifNotExists index table columns =>
    (catalog.createIndex parsed.source isUnique ifNotExists index table columns).map .define
  | .createView ifNotExists view query =>
    if parsed.placeholders = 0 then
      (catalog.createView parsed.source ifNotExists view query).map .define
    else .error (.rejected "parameters are not allowed in views")
  | .drop kind ifExists object => (catalog.drop kind ifExists object).map .define
  | .insert table columns insertion returning =>
    (catalog.insertion table columns insertion returning).map .change
  | .update table assignments condition returning =>
    (catalog.update table assignments condition returning).map .change
  | .delete table condition returning =>
    (catalog.deletion table condition returning).map .change
  | .select query => (catalog.query query).map .query

def compile (catalog : Catalog) (text : Text) :
    Except Refusal (Option (Action × Nat) × Text) := do
  match ← parseStatement catalog text with
  | (none, rest) => return (none, rest)
  | (some parsed, rest) => return (some (← catalog.action parsed, parsed.placeholders), rest)

end Catalog

structure Database where
  saved : Catalog
  /-- The catalog as it is within the open transaction, if one is open. -/
  working : Option Catalog
  changes : Nat
  lastRowid : Int64

structure Prepared where
  text : Text
  columns : List ResultColumn
  placeholders : Nat

inductive Unprepared where
  | refused (refusal : Refusal)
  | several
  deriving DecidableEq

namespace Database

def ofCatalog (saved : Catalog) : Database := ⟨saved, none, 0, 0⟩

def inTransaction (db : Database) : Bool := db.working.isSome

def catalog (db : Database) : Catalog := db.working.getD db.saved

def withCatalog (db : Database) (catalog : Catalog) : Database :=
  if db.inTransaction then { db with working := some catalog } else { db with saved := catalog }

def beginTransaction (db : Database) : Except Refusal Unit × Database :=
  if db.inTransaction then
    (.error (.rejected "cannot start a transaction within a transaction"), db)
  else (.ok (), { db with working := some db.saved })

def commitTransaction (db : Database) : Except Refusal Unit × Database :=
  match db.working with
  | some working => (.ok (), { db with saved := working, working := none })
  | none => (.error (.rejected "cannot commit - no transaction is active"), db)

def rollbackTransaction (db : Database) : Except Refusal Unit × Database :=
  match db.working with
  | some _ => (.ok (), { db with working := none })
  | none => (.error (.rejected "cannot rollback - no transaction is active"), db)

-- An edit of rows. One that is refused changes no row and counts none, but the number of the last
-- row inserted before the refusal is kept.
def change (db : Database) (c : Change) (bound : List Datum) :
    Except Refusal (List (List Datum)) × Database :=
  let outcome := c.outcome bound
  let lastRowid :=
    match c.edit, outcome.touched.getLast? with
    | .insert _, some row => row.rowid
    | _, _ => db.lastRowid
  match outcome.table with
  | .error refusal => (.error refusal, { db with changes := 0, lastRowid := lastRowid })
  | .ok table =>
    let db := db.withCatalog (db.catalog.replaceTable table)
    let answers := if c.returning.isEmpty then [] else outcome.touched.map (c.answer bound)
    (.ok answers, { db with changes := outcome.touched.length, lastRowid := lastRowid })

def act (db : Database) (bound : List Datum) :
    Action → Except Refusal (List (List Datum)) × Database
  | .beginTransaction => db.beginTransaction.map (·.map fun () => []) id
  | .commitTransaction => db.commitTransaction.map (·.map fun () => []) id
  | .rollbackTransaction => db.rollbackTransaction.map (·.map fun () => []) id
  | .define (.ok catalog) => (.ok [], db.withCatalog catalog)
  | .define (.error refusal) => (.error refusal, db)
  | .change c => db.change c bound
  | .query q => (q.rows bound, db)

-- The rows that a prepared statement answers. It is read again, since the tables may have changed.
def run (db : Database) (prepared : Prepared) (bound : List Datum) :
    Except Refusal (List (List Datum)) × Database :=
  match db.catalog.compile prepared.text with
  | .error refusal => (.error refusal, db)
  | .ok (none, _) => (.error (.rejected "bad parameter or other API misuse"), db)
  | .ok (some (action, _), _) => db.act bound action

-- Prepares a text. What follows the first statement is read too; every statement takes a character
-- or more, which bounds their number.
def prepareWithin : Nat → Database → Text → Except Unprepared (Option Prepared)
  | 0, _, _ => .ok none
  | fuel + 1, db, text =>
    match db.catalog.compile text with
    | .error refusal => .error (.refused refusal)
    | .ok (first, rest) => do
      if rest ≠ [] then
        if (← prepareWithin fuel db rest).isSome then throw .several
      return first.map fun (action, placeholders) => ⟨text, action.columns, placeholders⟩

def prepare (db : Database) (text : Text) : Except Unprepared Prepared := do
  return (← prepareWithin (text.length + 1) db text).getD ⟨text, [], 0⟩

-- Runs the statements of a text one after another, up to the first that is refused. Placeholders
-- stand for missing values, and rows that are answered are ignored.
def runAllWithin : Nat → Database → Text → Except Refusal Unit × Database
  | 0, db, _ => (.ok (), db)
  | fuel + 1, db, text =>
    match db.catalog.compile text with
    | .error refusal => (.error refusal, db)
    | .ok (none, _) => (.ok (), db)
    | .ok (some (action, _), rest) =>
      match db.act [] action with
      | (.error refusal, db) => (.error refusal, db)
      | (.ok _, db) => runAllWithin fuel db rest

def runAll (db : Database) (text : Text) : Except Refusal Unit × Database :=
  runAllWithin (text.length + 1) db text

end Database

end SqlDialect.Engine

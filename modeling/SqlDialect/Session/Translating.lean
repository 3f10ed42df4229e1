import SqlDialect.Query.Massage
import SqlDialect.Schema.Import
import SqlDialect.Session.Basic
import SqlDialect.Session.Connection
import SqlDialect.Session.Stored

/-! Sessions on a database of this program's own. Its dialect is another one than that of the
queries, so every query is massaged before it is run. -/

set_option autoImplicit false

namespace SqlDialect.Translating

open Engine (Datum)

variable {σ π α : Type}

def ask (query : Text) (cells : List Cell) (answer : σ → Except ConnectionError α × σ) (s : σ) :
    Except Fault α × σ :=
  (answer s).map (·.mapError (ConnectionError.toFault query cells)) id

section

variable (conn : Connection σ π)

def beginIfNeeded (s : σ) : Except Fault Unit × σ :=
  if conn.isAutocommit s then ask "BEGIN" [] (conn.batch "BEGIN") s else (.ok (), s)

def endTransaction (command : Text) (s : σ) : Except Fault Unit × σ :=
  if conn.isAutocommit s then (.ok (), s) else ask command [] (conn.batch command) s

end

/-! Statements -/

def unbindable (query : Text) (cells : List Cell) (c : Cell) : Fault :=
  .invalidParameters ("cannot bind " ++ c.display ++ " to a SQLite parameter")
    (Cell.literals cells) query

-- The values to bind for cells; the first that has no stored form is refused.
def bind (query : Text) (cells : List Cell) : Except Fault (List Datum) :=
  cells.mapM fun c =>
    match c.stored? with
    | some d => .ok d
    | none => .error (unbindable query cells c)

def readCell : Option Text → Datum → Option Cell
  | some type, d => Cell.ofStored? type d
  | none, d => some d.toCell

def readRow (columns : List (Text × Option Text)) (row : List Datum) : Option (List Cell) :=
  (columns.zip row).mapM fun (c, d) => readCell c.2 d

def tableOf (columns : List (Text × Option Text)) (cells : List (List Cell)) : ResultSet :=
  .ofRows (columns.map fun (name, type) => (name, type.getD [])) cells

def idResult (id : Int64) : ResultSet := .ofRows [("id", "INTEGER")] [[.int id]]

section

variable (conn : Connection σ π)

def lastInsertId : Step σ ResultSet := do
  return idResult (← Step.ofAnswer (ask "SELECT last_insert_rowid()" [] conn.lastInsertRowid))

def runMassaged (m : Massaged) : Step σ ResultSet := do
  let bound ← Step.ofExcept (bind m.query m.cells)
  let statement ← Step.ofAnswer (ask m.query m.cells (conn.prepare m.query))
  let columns := conn.columns statement
  if columns = [] then
    let changed ← Step.ofAnswer (ask m.query m.cells (conn.execute statement bound))
    if m.hints.returningId then lastInsertId conn else return .ofAffected changed
  else
    let rows ← Step.ofAnswer (ask m.query m.cells (conn.query statement bound))
    return tableOf columns (← Step.ofOption (rows.mapM (readRow columns)))

def run (query : Text) (params : List Param) : Step σ ResultSet := do
  let massaged ← Step.ofExcept ((massage query params).mapError Mismatch.toFault)
  Step.ofAnswer (beginIfNeeded conn)
  runMassaged conn massaged

def runRow (query : Text) (statement : π) (cells : List Cell) : Step σ Nat := do
  let bound ← Step.ofExcept (bind query cells)
  Step.ofAnswer (ask query cells (conn.execute statement bound))

def runMassagedRows (m : MassagedRows) : Step σ Nat := do
  let statement ← Step.ofAnswer (ask m.query [] (conn.prepare m.query))
  let counts ← m.rows.mapM (runRow conn m.query statement)
  return counts.foldl (· + ·) 0

def runMany (query : Text) (rows : List (List Param)) : Step σ Nat := do
  let massaged ← Step.ofExcept ((massageMany query rows).mapError Mismatch.toFault)
  Step.ofAnswer (beginIfNeeded conn)
  runMassagedRows conn massaged

def close : Step σ Unit := do
  Step.ofAnswer (endTransaction conn "ROLLBACK")
  Step.ofAnswer fun s => (conn.close s).map (·.mapError .database) id

def backend : Backend σ where
  name := "sqlite"
  run := run conn
  runMany := runMany conn
  commit := Step.ofAnswer (endTransaction conn "COMMIT")
  rollback := Step.ofAnswer (endTransaction conn "ROLLBACK")
  close := close conn

/-! Importing -/

def execute (statement : Text) (s : σ) : Except Fault Unit × σ :=
  match beginIfNeeded conn s with
  | (.ok (), s) => ask statement [] (conn.batch statement) s
  | (.error fault, s) => (.error fault, s)

def target : Target σ where
  execute := execute conn
  commit := endTransaction conn "COMMIT"

/-- Imports schema scripts, and takes back what is not committed. -/
def importSchema (files : List FileContent) (s : σ) : Except Fault ImportReport × σ :=
  match importFiles (target conn) files s with
  | .error fault => (.error fault, s)
  | .ok (report, s) =>
    if report.committed then (.ok report, s)
    else (endTransaction conn "ROLLBACK" s).map (·.map fun () => report) id

end

end SqlDialect.Translating

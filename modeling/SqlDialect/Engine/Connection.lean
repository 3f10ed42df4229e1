import SqlDialect.Engine.Database
import SqlDialect.Session.Connection

/-! A database as a connection to it. -/

set_option autoImplicit false

namespace SqlDialect.Engine

def Refusal.toError : Refusal → ConnectionError
  | .constraint reason => .failure true [] (some reason)
  | .rejected reason => .input reason

def Unprepared.toError : Unprepared → ConnectionError
  | .refused refusal => refusal.toError
  | .several => .other "Multiple statements provided"

namespace Database

-- There must be a value for every placeholder and no more; values beyond the first that is too
-- many are not counted.
def runBound (prepared : Prepared) (bound : List Datum) (db : Database) :
    Except ConnectionError (List (List Datum)) × Database :=
  if bound.length = prepared.placeholders then
    (db.run prepared bound).map (·.mapError Refusal.toError) id
  else
    (.error (.parameterCount (min bound.length (prepared.placeholders + 1)) prepared.placeholders),
      db)

def executeBound (prepared : Prepared) (bound : List Datum) (db : Database) :
    Except ConnectionError Nat × Database :=
  match runBound prepared bound db with
  | (.ok [], db) => (.ok db.changes, db)
  | (.ok (_ :: _), db) => (.error .returnedRows, db)
  | (.error error, db) => (.error error, db)

def connection : Connection Database Prepared where
  isAutocommit db := !db.inTransaction
  batch text db := (db.runAll text).map (·.mapError Refusal.toError) id
  prepare text db := ((db.prepare text).mapError Unprepared.toError, db)
  columns prepared :=
    prepared.columns.map fun c => (c.name, if c.type = [] then none else some c.type)
  execute := executeBound
  query := runBound
  lastInsertRowid db := (.ok db.lastRowid, db)
  close db := (.ok (), db)

end Database

end SqlDialect.Engine

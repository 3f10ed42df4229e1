import SqlDialect.Query.Placeholder
import SqlDialect.Session.Basic
import SqlDialect.Session.Server

/-! Sessions on a server of the queries' own dialect. Queries are sent as they are, but for their
placeholders. -/

set_option autoImplicit false

namespace SqlDialect

open Wire (Bytes Completion Description Request Server ServerError)

/-- A session with a server in the given state. -/
structure NativeSession (σ : Type) where
  server : σ
  /-- What has been sent, the newest last. -/
  log : List Request
  /-- A transaction was begun, and neither its commit nor its rollback has been sent. -/
  inTransaction : Bool

namespace NativeSession

variable {σ α : Type}

def exchange (query : Text) (request : Request) (answer : σ → Except ServerError α × σ) :
    Step (NativeSession σ) α := do
  let s ← get
  let (outcome, server) := answer s.server
  set { s with server := server, log := s.log ++ [request] }
  match outcome with
  | .ok a => return a
  | .error error => throw ((error.toFault? query).elim .crash .fault)

def beginIfNeeded (server : Server σ) (query : Text) : Step (NativeSession σ) Unit := do
  if !(← get).inTransaction then
    exchange query (.command "BEGIN") (server.command "BEGIN")
    modify fun s => { s with inTransaction := true }

-- Ends the transaction, if there is one. It counts as ended even if the server fails.
def endTransaction (server : Server σ) (command : Text) : Step (NativeSession σ) Unit := do
  if (← get).inTransaction then
    modify fun s => { s with inTransaction := false }
    exchange command (.command command) (server.command command)

/-! Statements -/

/-- The cell that a parameter is sent as: a list is an array. -/
def cellOfParam : Param → Cell
  | .scalar c => c
  | .list items => .array items

def prepare (server : Server σ) (query : Text) : Step (NativeSession σ) Description :=
  if Wire.isSendable query then exchange query (.prepare query) (server.prepare query)
  else throw (.fault (.database
    "error encoding message to server: string contains embedded null"))

def encodeFrom (index : Nat) : List (Wire.ValueType × Cell) → Except Fault (List (Option Bytes))
  | [] => .ok []
  | (type, c) :: rest =>
    match Wire.encode type c with
    | .error cause =>
      .error (.database ("error serializing parameter " ++ Text.ofNat index ++ ": " ++
        cause.message))
    | .ok bytes => (encodeFrom (index + 1) rest).map (bytes :: ·)

def encodeParams (types : List Wire.ValueType) (params : List Param) :
    Except Fault (List (Option Bytes)) :=
  if params.length = types.length then encodeFrom 0 (types.zip (params.map cellOfParam))
  else
    .error (.database ("expected " ++ Text.ofNat types.length ++ " parameters but got " ++
      Text.ofNat params.length))

def execute (server : Server σ) (query : Text) (description : Description)
    (params : List Param) : Step (NativeSession σ) Completion := do
  let bytes ← Step.ofExcept (encodeParams description.params params)
  exchange query (.execute query bytes) (server.execute query bytes)

def readRow (columns : List (Text × Wire.ValueType)) (row : List (Option Bytes)) : List Cell :=
  (columns.zip row).map fun (c, bytes) => Wire.decode c.2 bytes

def resultOf (columns : List (Text × Wire.ValueType)) (completion : Completion) : ResultSet :=
  if columns = [] then .ofAffected (Wire.affectedOfTag completion.tag).toNat
  else
    .ofRows (columns.map fun (name, type) => (name, type.name))
      (completion.rows.map (readRow columns))

def run (server : Server σ) (query : Text) (params : List Param) :
    Step (NativeSession σ) ResultSet := do
  let query := convertPlaceholders query .numbered
  beginIfNeeded server query
  let description ← prepare server query
  let completion ← execute server query description params
  return resultOf description.columns completion

def runRow (server : Server σ) (query : Text) (description : Description)
    (params : List Param) : Step (NativeSession σ) UInt64 := do
  let completion ← execute server query description params
  return Wire.affectedOfTag completion.tag

def runMany (server : Server σ) (query : Text) (rows : List (List Param)) :
    Step (NativeSession σ) Nat := do
  let query := convertPlaceholders query .numbered
  beginIfNeeded server query
  let description ← prepare server query
  let counts ← rows.mapM (runRow server query description)
  return (counts.foldl (· + ·) 0).toNat

def backend (server : Server σ) : Backend (NativeSession σ) where
  name := "postgresql"
  run := run server
  runMany := runMany server
  commit := endTransaction server "COMMIT"
  rollback := endTransaction server "ROLLBACK"
  close := endTransaction server "ROLLBACK"

end NativeSession

end SqlDialect

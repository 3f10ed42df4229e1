import SqlDialect.Session.Server

/-! A server that answers from a script. -/

set_option autoImplicit false

namespace SqlDialect.Wire

/-- One execution of a statement: rows, and then the tag or an error. -/
structure ScriptedRun where
  rows : List (List (Option Bytes))
  tag : Text
  error : Option ServerError

structure ScriptedStatement where
  query : Text
  params : List ValueType
  columns : List (Text × ValueType)
  prepareError : Option ServerError
  /-- The executions to come; the last is repeated. -/
  runs : List ScriptedRun

structure Script where
  asksPassword : Bool
  loginError : Option ServerError
  statements : List ScriptedStatement
  commandErrors : List (Text × ServerError)

namespace Script

def unscripted : ServerError := ⟨"42601", "unscripted statement"⟩

def outcome : Option ServerError → Except ServerError Unit
  | some error => .error error
  | none => .ok ()

def find? (script : Script) (query : Text) : Option ScriptedStatement :=
  script.statements.find? (·.query == query)

def prepare (script : Script) (query : Text) : Except ServerError Description :=
  match script.find? query with
  | none => .error unscripted
  | some statement =>
    match statement.prepareError with
    | some error => .error error
    | none => .ok ⟨statement.params, statement.columns⟩

def nextRun (statement : ScriptedStatement) : ScriptedRun × ScriptedStatement :=
  match statement.runs with
  | [] => (⟨[], "SELECT 0", none⟩, statement)
  | [run] => (run, statement)
  | run :: rest => (run, { statement with runs := rest })

def execute (script : Script) (query : Text) : Except ServerError Completion × Script :=
  match script.find? query with
  | none => (.error unscripted, script)
  | some statement =>
    let (run, statement) := nextRun statement
    let script :=
      { script with
        statements := script.statements.map fun s =>
          if s.query = query then statement else s }
    match run.error with
    | some error => (.error error, script)
    | none => (.ok ⟨run.rows, run.tag⟩, script)

def server : Server Script where
  asksPassword script := script.asksPassword
  authorize script := outcome script.loginError
  command text script := (outcome (script.commandErrors.lookup text), script)
  prepare query script := (script.prepare query, script)
  execute query _ script := script.execute query

end Script

end SqlDialect.Wire

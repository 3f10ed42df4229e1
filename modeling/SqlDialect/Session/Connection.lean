import SqlDialect.Engine.Datum
import SqlDialect.Fault

/-! A connection to a database of this program's own. The library that gives it and the engine
behind it are known by their answers only. -/

set_option autoImplicit false

namespace SqlDialect

open Engine (Datum)

inductive ConnectionError where
  /-- The engine has failed, with a code of its own and mostly a message. -/
  | failure (isConstraint : Bool) (code : Text) (message : Option Text)
  | input (message : Text)
  | parameterCount (given expected : Nat)
  | conversion (message : Text)
  /-- A statement that was run for its changes has answered with rows. -/
  | returnedRows
  | other (message : Text)

def ConnectionError.toFault (query : Text) (cells : List Cell) : ConnectionError → Fault
  | failure true code message => .integrity (message.getD code)
  | failure false code message => .invalidQuery (message.getD code) query
  | input message => .invalidQuery message query
  | parameterCount given expected =>
    .invalidParameters
      ("expected " ++ Text.ofNat expected ++ " parameters, got " ++ Text.ofNat given)
      (Cell.literals cells) query
  | conversion message => .invalidParameters message (Cell.literals cells) query
  | returnedRows => .database "Execute returned results - did you mean to call query?"
  | other message => .database message

/-- A connection, seen through the state of the engine behind it. -/
structure Connection (σ π : Type) where
  isAutocommit : σ → Bool
  /-- Runs the statements of a text one after another. -/
  batch : Text → σ → Except ConnectionError Unit × σ
  prepare : Text → σ → Except ConnectionError π × σ
  /-- The names of the result columns, and the types that those from a table are declared with. -/
  columns : π → List (Text × Option Text)
  /-- Runs a statement for its changes, and counts them. -/
  execute : π → List Datum → σ → Except ConnectionError Nat × σ
  query : π → List Datum → σ → Except ConnectionError (List (List Datum)) × σ
  lastInsertRowid : σ → Except ConnectionError Int64 × σ
  close : σ → Except Text Unit × σ

end SqlDialect

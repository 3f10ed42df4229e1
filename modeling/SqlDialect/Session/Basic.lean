import SqlDialect.Fault
import SqlDialect.Result

/-! Connections to a database, seen from the program that uses them.

A transaction opens by itself before the first statement and lasts until it is committed or
rolled back.
-/

set_option autoImplicit false

namespace SqlDialect

inductive Failure where
  | fault (f : Fault)
  | crash
  deriving DecidableEq

-- A step on a connection. What it changed stays changed when it fails.
abbrev Step (σ : Type) : Type → Type := ExceptT Failure (StateM σ)

namespace Step

variable {σ α : Type}

def ofExcept : Except Fault α → Step σ α
  | .ok a => pure a
  | .error fault => throw (.fault fault)

def ofOption : Option α → Step σ α
  | some a => pure a
  | none => throw .crash

def ofAnswer (answer : σ → Except Fault α × σ) : Step σ α := do
  let (outcome, s) := answer (← get)
  set s
  ofExcept outcome

def outcome (step : Step σ α) (s : σ) : Except Failure α × σ := step.run s

end Step

/-- What a connection can do, whatever it is connected to. -/
structure Backend (σ : Type) where
  name : Text
  run : Text → List Param → Step σ ResultSet
  /-- The number of rows changed by one statement, run once for each row of parameters. -/
  runMany : Text → List (List Param) → Step σ Nat
  commit : Step σ Unit
  rollback : Step σ Unit
  /-- What is not committed is rolled back. -/
  close : Step σ Unit

end SqlDialect

import SqlDialect.Fault

/-! Error codes of a server, by class: the first two characters tell what kind of error it is. -/

set_option autoImplicit false

namespace SqlDialect.Wire

inductive Category where
  | malformed
  | semantic
  | integrity
  | execution
  | rollback
  | transaction
  | connection
  | unknown
  deriving DecidableEq

namespace Category

def name : Category → Text
  | malformed => "Syntax Error"
  | semantic => "Semantic Error"
  | integrity => "Integrity Error"
  | execution => "Execution Error"
  | rollback => "Transaction Rollback"
  | transaction => "Transaction Error"
  | connection => "Connection Error"
  | unknown => "Error"

def ofClass (code cls : Text) : Category :=
  if cls = "42" then
    if code = "42601" ∨ code = "42000" then malformed else semantic
  else if cls = "23" then integrity
  else if cls = "40" then rollback
  else if cls ∈ (["22", "53", "54", "55", "57"] : List Text) then execution
  else if cls = "25" then transaction
  else if cls = "08" then connection
  else unknown

-- The category of a code. The class is its first two bytes, so there is no answer where a
-- character lies across their end.
def ofCode? (code : Text) : Option Category :=
  match code with
  | [] => some unknown
  | [a] => if a.utf8Size ≤ 2 then some unknown else none
  | a :: b :: _ =>
    if a.utf8Size = 1 then
      if b.utf8Size = 1 then some (ofClass code [a, b]) else none
    else if a.utf8Size = 2 then some unknown
    else none

end Category

structure ServerError where
  code : Text
  message : Text
  deriving DecidableEq

def ServerError.toFault? (error : ServerError) (query : Text) : Option Fault :=
  (Category.ofCode? error.code).map fun
    | .malformed | .semantic => .invalidQuery error.message query
    | .integrity => .integrity error.message
    | .rollback => .rolledBack error.message
    | category => .database (category.name ++ ": " ++ error.message)

end SqlDialect.Wire

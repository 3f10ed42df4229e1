import SqlDialect.Text.Quoted

/-! What can go wrong, by who is to blame, and the one wording of each. -/

set_option autoImplicit false

namespace SqlDialect

-- Why a request was refused. The reason is in the words of whoever refused it.
inductive Fault where
  /-- A rewrite rule was refused when it was defined. -/
  | invalidRule (pattern reason : Text)
  /-- A query has a shape that has no counterpart in the other dialect. -/
  | translation (reason : Text)
  /-- The database refused the text of a statement. -/
  | invalidQuery (reason query : Text)
  /-- The values given do not fit the statement. -/
  | invalidParameters (reason params query : Text)
  | integrity (reason : Text)
  /-- The transaction was given up by the server and may be tried again. -/
  | rolledBack (reason : Text)
  | database (reason : Text)
  | configuration (reason : Text)
  | inputOutput (reason : Text)
  deriving DecidableEq

namespace Fault

def message : Fault → Text
  | invalidRule pattern reason => "invalid rewrite rule " ++ pattern.quoted ++ ": " ++ reason
  | translation reason => "translation failed: " ++ reason
  | invalidQuery reason query => "Invalid query: " ++ reason.quoted ++ " " ++ query.quoted
  | invalidParameters reason params query =>
    "Invalid parameters: " ++ reason.quoted ++ " " ++ params ++ " for " ++ query.quoted
  | integrity reason => "integrity violation: " ++ reason
  | rolledBack reason => "transaction rolled back: " ++ reason
  | database reason => "database error: " ++ reason
  | configuration reason => "configuration error: " ++ reason
  | inputOutput reason => reason

def isIntegrity : Fault → Bool
  | integrity _ => true
  | _ => false

end Fault

end SqlDialect

import SqlDialect.Query.Hint
import SqlDialect.Query.Membership
import SqlDialect.Query.Placeholder
import SqlDialect.Rule.Table

/-! A query and its parameters made ready for the database of the other dialect.

The stages are: the hint on missing values is taken out, membership tests are spread over
placeholders, the request for the new row's number is taken out, placeholders become question
marks, and the fixed rules run over the tokens.
-/

set_option autoImplicit false

namespace SqlDialect

/-- The fixed rules for queries: a name, the old pattern and the new. -/
def queryRows : List (Text × Text × Text) := [
  ("epoch_since", "EXTRACT ('epoch' FROM NOW() - $1)",
    "strftime('%s', 'now') - strftime('%s', $1)"),
  ("epoch_until_min", "EXTRACT ('epoch' FROM (MIN($1) - NOW()))",
    "strftime('%s', MIN($1)) - strftime('%s', 'now')"),
  ("now", "NOW()", "cast(strftime('%s', 'now') as integer)"),
  ("true", "TRUE", "1"),
  ("false", "FALSE", "0"),
  ("one_day", "'1 day'", "86400"),
  ("next_as_text", "next::text", "datetime(next, 'unixepoch')"),
  ("quote_commit", "commit", "\"commit\""),
  ("quote_transaction", "transaction", "\"transaction\""),
  ("suppress_md5", "MD5($1)", "$1"),
  ("fetch_first_row", "FETCH FIRST ROW ONLY", ""),
  ("chaincomments", "chaincomments(commentchains.id)", "0"),
  ("chainunread", "chainunread(commentchains.id, ?)", "ifnull(0, ?)"),
  ("character_length", "character_length(", "length(")]

theorem isOk_queryRules : (RuleTable.ofRows? queryRows).isOk = true := by decide +kernel

def queryRules : RuleTable := (RuleTable.ofRows? queryRows).toOption.getD .empty

structure Hints where
  nulls : Option NullsOrder
  returningId : Bool
  deriving DecidableEq

structure Massaged where
  query : Text
  cells : List Cell
  hints : Hints

def translateQuery (query : Text) : Text :=
  Token.join (queryRules.apply (tokenize (convertPlaceholders query .question))).1

def flatten (query : Text) (params : List Param) : Except Mismatch (List Cell) :=
  if params.any Param.isList then .error (.listLeft params query)
  else .ok (params.flatMap Param.cells)

def massage (query : Text) (params : List Param) : Except Mismatch Massaged := do
  let (query, nulls) := stripNullsOrder query
  let (query, params) ← expandAny query params
  let (query, returningId) := stripReturningId query
  let query := translateQuery query
  let cells ← flatten query params
  return ⟨query, cells, ⟨nulls, returningId⟩⟩

structure MassagedRows where
  query : Text
  rows : List (List Cell)
  hints : Hints

/-- A query massaged with rows of parameters of which the first is given apart. -/
def massageRows (query : Text) (first : Massaged) : List (List Param) →
    Except Mismatch (List (List Cell))
  | [] => .ok []
  | row :: rows => do
    let massaged ← massage query row
    if massaged.query = first.query then
      let rest ← massageRows query first rows
      return massaged.cells :: rest
    else .error (.differentQueries first.query massaged.query)

-- A query massaged with every row of parameters; all must give the same query. Without rows its
-- membership tests stay.
def massageMany (query : Text) (rows : List (List Param)) : Except Mismatch MassagedRows :=
  match rows with
  | [] =>
    let (query, nulls) := stripNullsOrder query
    let (query, returningId) := stripReturningId query
    .ok ⟨translateQuery query, [], ⟨nulls, returningId⟩⟩
  | row :: rows => do
    let first ← massage query row
    let rest ← massageRows query first rows
    return ⟨first.query, first.cells :: rest, first.hints⟩

end SqlDialect

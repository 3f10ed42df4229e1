import SqlDialect.Schema.EnumType
import SqlDialect.Text.LetterCase

/-! Schema statements: what kind each is, and how it is written in the other dialect. -/

set_option autoImplicit false

namespace SqlDialect

inductive StatementKind where
  /-- A setting of the session, which the other database does not have. -/
  | sessionSetting
  /-- An index of a special method or of a part of the rows. -/
  | unsupportedIndex
  /-- A table, a view, an index or rows. -/
  | translatable
  | enumDeclaration
  /-- A constraint added to a table later. -/
  | alterTable
  | unrecognized
  deriving DecidableEq

namespace StatementKind

/-- The parts of a name that tell an index of a special method, unless it begins with them. -/
def indexSuffixes : List Text := ["_md5", "_gin"]

def isSpecialIndex (name : Text) : Bool :=
  indexSuffixes.any fun suffix =>
    match Text.cut? suffix name.fold with
    | some (before, _) => !before.isEmpty
    | none => false

def ofIndex (tokens : List Token) : StatementKind :=
  let special := match tokens with
    | [] => false
    | name :: _ => isSpecialIndex name.text
  if special || tokens.any (·.agrees "WHERE") then unsupportedIndex else translatable

def ofTokens (tokens : List Token) : StatementKind :=
  let word (i : Nat) (keyword : Token) : Bool := (tokens[i]?).any (·.agrees keyword)
  if word 0 "SET" then sessionSetting
  else if word 0 "CREATE" && word 1 "INDEX" then ofIndex (tokens.drop 2)
  else if word 0 "CREATE" && word 1 "UNIQUE" && word 2 "INDEX" then ofIndex (tokens.drop 3)
  else if word 0 "CREATE" && (word 1 "TABLE" || word 1 "VIEW") then translatable
  else if word 0 "CREATE" && word 1 "TYPE" && word 3 "AS" && word 4 "ENUM" then enumDeclaration
  else if word 0 "INSERT" && word 1 "INTO" then translatable
  else if word 0 "ALTER" && word 1 "TABLE" then alterTable
  else unrecognized

def ofText (statement : Text) : StatementKind := ofTokens (tokenize statement)

end StatementKind

/-- The fixed rules for schema statements: a name, the old pattern and the new. -/
def schemaRows : List (Text × Text × Text) := [
  ("default_now", "DEFAULT NOW()", "DEFAULT (cast(strftime('%s', 'now') as integer))"),
  ("true", "TRUE", "1"),
  ("false", "FALSE", "0"),
  ("zero_interval", "INTERVAL '0'", "0"),
  ("serial_primary_key", "SERIAL PRIMARY KEY", "INTEGER PRIMARY KEY"),
  ("quote_commit", "commit", "\"commit\""),
  ("quote_transaction", "transaction", "\"transaction\"")]

theorem isOk_schemaRules : (RuleTable.ofRows? schemaRows).isOk = true := by decide +kernel

def schemaRules : RuleTable := (RuleTable.ofRows? schemaRows).toOption.getD .empty

/-- A schema statement in the other dialect: the fixed rules first, then the enumerated types. -/
def translateSchema (enums : EnumRegistry) (statement : Text) : Text :=
  Token.join (enums.apply (schemaRules.apply (tokenize statement)).1).1

def leadingWords : List Text → List Text
  | [] => []
  | word :: rest => if word.isUpper then word :: leadingWords rest else [word]

def statementSummary (statement : Text) : Text :=
  List.intercalate [' '] (leadingWords statement.words)

end SqlDialect

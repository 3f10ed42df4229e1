import SqlDialect.Engine.Parser

/-! Reading statements. -/

set_option autoImplicit false

namespace SqlDialect.Engine.Parser

def clause? {α : Type} (word : Text) (p : Parser α) : Parser (Option α) := do
  if ← keyword? word then return some (← p) else return none

def label? : Parser (Option Text) := do
  if ← keyword? "as" then return some (← name) else take? Lexeme.label?

def tableName : Parser TableName := do
  let first ← identifier
  if ← sign? "." then return ⟨some first.name, ← identifier⟩ else return ⟨none, first⟩

def seesAllOf (lexemes : List Lexeme) : Option Text :=
  match lexemes with
  | l :: point :: star :: _ =>
    if point.isSign "." ∧ star.isSign "*" then l.nameOrString? else none
  | _ => none

def item : Parser Item := do
  if ← sign? "*" then return .all none
  else
    match seesAllOf (← input).rest with
    | some table =>
      skip 3
      return .all (some table)
    | none =>
      let (e, source) ← withSource expr
      return .expr e (← label?) source

def returning : Parser (List Item) := do
  return (← clause? "returning" (commaList item)).getD []

def sortKey : Parser (SortKey Name) := do
  let key ← expr
  let isDescending ← keyword? "desc"
  if !isDescending then
    let _ ← keyword? "asc"
  if ← keyword? "nulls" then
    if ← keyword? "first" then return ⟨key, isDescending, some true⟩
    else
      keyword "last"
      return ⟨key, isDescending, some false⟩
  else return ⟨key, isDescending, none⟩

def selectBody : Parser Select := do
  let isDistinct ← keyword? "distinct"
  if !isDistinct then
    let _ ← keyword? "all"
  let items ← commaList item
  let table ← clause? "from" do
    let table ← tableName
    return (table, ← label?)
  let condition ← clause? "where" expr
  let order ← clause? "order" do
    keyword "by"
    commaList sortKey
  match ← clause? "limit" expr with
  | none => return ⟨isDistinct, items, table, condition, order.getD [], none, none⟩
  | some limit =>
    if ← keyword? "offset" then
      return ⟨isDistinct, items, table, condition, order.getD [], some limit, some (← expr)⟩
    else if ← sign? "," then
      return ⟨isDistinct, items, table, condition, order.getD [], some (← expr), some limit⟩
    else return ⟨isDistinct, items, table, condition, order.getD [], some limit, none⟩

/-! Definitions -/

def literal? (l : Lexeme) : Option (Expr Name) :=
  match l.kind with
  | .number d => some (.literal d)
  | .string s => some (.literal (.text s))
  | .blob b => some (.literal (.blob b))
  | _ => if l.isKeyword "null" then some (.literal .null) else none

/-- A default: an expression between parentheses, a literal, or a name, which stands for its
text. -/
def defaultValue : Parser (Expr Name) := do
  if ← sees (Lexeme.isSign "(") then parenthesized expr
  else if ← sign? "-" then
    let operandText := ((← peek?).map Lexeme.text).getD []
    return negated operandText (← take literal?)
  else if ← sign? "+" then take literal?
  else
    match ← take? Lexeme.name? with
    | some name => return .literal (.text name)
    | none => take literal?

def columnNames : Parser (List Text) :=
  parenthesized <| commaList do
    let column ← name
    if !(← keyword? "desc") then
      let _ ← keyword? "asc"
    return column

-- A condition between parentheses; messages name it by the constraint's name or else by its
-- source.
def check (constraint : Option Text) : Parser TableRule :=
  parenthesized do
    let (condition, source) ← withSource expr
    return .check (constraint.getD source) condition

def columnRules : Nat → Option Text → ColumnDefinition → List TableRule →
    Parser (ColumnDefinition × List TableRule)
  | 0, _, column, rules => return (column, rules)
  | fuel + 1, constraint, column, rules => do
    if ← keyword? "constraint" then
      let constraint ← name
      columnRules fuel (some constraint) column rules
    else if ← keyword? "default" then
      let value ← defaultValue
      columnRules fuel constraint { column with default := some value } rules
    else if ← keyword? "null" then columnRules fuel constraint column rules
    else if ← keyword? "not" then
      keyword "null"
      columnRules fuel constraint { column with isNotNull := true } rules
    else if ← keyword? "primary" then
      keyword "key"
      let isDescending ← keyword? "desc"
      if !isDescending then
        let _ ← keyword? "asc"
      let isAutomatic ← keyword? "autoincrement"
      if isAutomatic ∧ !(column.type = "INTEGER".toList ∧ !isDescending) then
        reject (.rejected "AUTOINCREMENT is only allowed on an INTEGER PRIMARY KEY")
      columnRules fuel constraint column (rules ++ [.primaryKey [column.name] !isDescending])
    else if ← keyword? "unique" then
      columnRules fuel constraint column (rules ++ [.unique [column.name]])
    else if ← keyword? "check" then
      let rule ← check constraint
      columnRules fuel constraint column (rules ++ [rule])
    else return (column, rules)

def columnRuleWords : List Text :=
  ["constraint", "default", "null", "not", "primary", "unique", "check"]

def goesOnAfterType (l : Lexeme) : Bool :=
  l.isSign "," || l.isSign ")" || columnRuleWords.any (l.isKeyword ·)

def columnDefinition (earlier : List ColumnDefinition) :
    Parser (ColumnDefinition × List TableRule) := do
  let column ← name
  let type ← type
  if ← sees goesOnAfterType then
    if earlier.any (·.name.agrees column) then
      reject (.rejected ("duplicate column name: " ++ column))
    columnRules ((← input).rest.length) none ⟨column, type, false, none⟩ []
  else refuse

def tableRuleWords : List Text := ["constraint", "primary", "unique", "check"]

def seesTableRule : Parser Bool := sees fun l => tableRuleWords.any (l.isKeyword ·)

def tableRules : Nat → Option Text → Parser (List TableRule)
  | 0, _ => return []
  | fuel + 1, constraint => do
    if ← keyword? "constraint" then
      let constraint ← name
      if ← seesTableRule then tableRules fuel (some constraint) else refuse
    else if ← keyword? "primary" then
      keyword "key"
      let columns ← columnNames
      return .primaryKey columns true :: (← more fuel constraint)
    else if ← keyword? "unique" then
      let columns ← columnNames
      return .unique columns :: (← more fuel constraint)
    else if ← keyword? "check" then
      let rule ← check constraint
      return rule :: (← more fuel constraint)
    else refuse
where
  more (fuel : Nat) (constraint : Option Text) : Parser (List TableRule) := do
    if ← sign? "," then tableRules fuel none
    else if ← seesTableRule then tableRules fuel constraint
    else return []

def tableBody : Nat → List ColumnDefinition → List TableRule →
    Parser (List ColumnDefinition × List TableRule)
  | 0, columns, rules => return (columns, rules)
  | fuel + 1, columns, rules => do
    let (column, columnRules) ← columnDefinition columns
    let columns := columns ++ [column]
    let rules := rules ++ columnRules
    if ← sign? "," then
      if ← seesTableRule then
        return (columns, rules ++ (← tableRules ((← input).rest.length) none))
      else tableBody fuel columns rules
    else return (columns, rules)

def ifNotExists : Parser Bool := do
  if ← keyword? "if" then
    keyword "not"
    keyword "exists"
    return true
  else return false

def ended : Parser Unit := do if !(← sees fun l => !l.isSign ";") then return () else refuse

-- The options of a table, of which none is known. There can be others only behind commas, and a
-- comma may stand before the first.
def tableOptions : Parser Unit := do
  if ← sees fun l => !l.isSign ";" then
    let _ ← sign? ","
    let _ ← keyword? "without"
    let option ← identifier
    if !(← sees (Lexeme.isSign ",")) then ended
    reject (.rejected ("unknown table option: " ++ option.written))

/-- Where a table stands already, no further than its name is read. -/
def createTable (catalog : Catalog) : Parser Statement := do
  let ifNotExists ← ifNotExists
  let table ← tableName
  if ← sees (Lexeme.isSign "(") then
    lift table.checkDatabase
    match catalog.taken? table with
    | some refusal => if !ifNotExists then reject refusal
    | none => pure ()
    let (columns, rules) ← parenthesized do tableBody ((← input).rest.length) [] []
    tableOptions
    return .createTable ifNotExists table columns rules
  else refuse

def createIndex (isUnique : Bool) : Parser Statement := do
  let ifNotExists ← ifNotExists
  let index ← tableName
  keyword "on"
  let table ← identifier
  return .createIndex isUnique ifNotExists index table (← columnNames)

def createView : Parser Statement := do
  let ifNotExists ← ifNotExists
  let view ← tableName
  keyword "as"
  keyword "select"
  return .createView ifNotExists view (← selectBody)

def create (catalog : Catalog) : Parser Statement := do
  if ← keyword? "table" then createTable catalog
  else if ← keyword? "view" then createView
  else if ← keyword? "unique" then
    keyword "index"
    createIndex true
  else if ← keyword? "index" then createIndex false
  else refuse

def drop : Parser Statement := do
  let kind ←
    if ← keyword? "table" then pure ObjectKind.table
    else if ← keyword? "view" then pure .view
    else if ← keyword? "index" then pure .index
    else refuse
  let ifExists ← do
    if ← keyword? "if" then
      keyword "exists"
      pure true
    else pure false
  return .drop kind ifExists (← tableName)

/-- Tables are never altered: it is only read which table is meant and what is to be done. -/
def alter (catalog : Catalog) : Parser Statement := do
  keyword "table"
  let table ← tableName
  let missing : Refusal := noSuchTable table
  let isMissing := (catalog.findTable? table).isNone
  if ← keyword? "add" then
    if isMissing then reject missing
    let _ ← keyword? "column"
    let _ ← name
    refuse
  else
    if ← keyword? "rename" then
      if !(← keyword? "to") then
        let _ ← keyword? "column"
        let _ ← name
        keyword "to"
    else
      keyword "drop"
      let _ ← keyword? "column"
    let _ ← name
    ended
    if isMissing then reject missing else refuse

/-! Changes -/

def valueRows : Parser (List (List (Expr Name))) := do
  let rows ← commaList (parenthesized (commaList expr))
  let size := (rows.head?.map List.length).getD 0
  if rows.all fun row => row.length == size then return rows
  else reject (.rejected "all VALUES must have the same number of terms")

def insert : Parser Statement := do
  keyword "into"
  let table ← tableName
  if ← keyword? "as" then
    let _ ← name
  let columns ←
    if ← sees (Lexeme.isSign "(") then pure (some (← parenthesized (commaList name)))
    else pure none
  if ← keyword? "default" then
    keyword "values"
    return .insert table columns .defaults (← returning)
  else
    keyword "values"
    let rows ← valueRows
    return .insert table columns (.values rows) (← returning)

def assignment : Parser (Text × Expr Name) := do
  let column ← name
  sign "="
  return (column, ← expr)

def update : Parser Statement := do
  let table ← tableName
  keyword "set"
  let assignments ← commaList assignment
  let condition ← clause? "where" expr
  return .update table assignments condition (← returning)

def delete : Parser Statement := do
  keyword "from"
  let table ← tableName
  let condition ← clause? "where" expr
  return .delete table condition (← returning)

/-! Transactions -/

def transactionWord : Parser Unit := do
  if ← keyword? "transaction" then
    let _ ← take? Lexeme.nameOrString?

def beginTransaction : Parser Statement := do
  let _ ← passed fun l =>
    l.isKeyword "deferred" || l.isKeyword "immediate" || l.isKeyword "exclusive"
  transactionWord
  return .beginTransaction

def statement (catalog : Catalog) : Parser Statement := do
  if ← keyword? "select" then return .select (← selectBody)
  else if ← keyword? "insert" then insert
  else if ← keyword? "update" then update
  else if ← keyword? "delete" then delete
  else if ← keyword? "create" then create catalog
  else if ← keyword? "drop" then drop
  else if ← keyword? "alter" then alter catalog
  else if ← keyword? "begin" then beginTransaction
  else if ← passed Lexeme.isCommit then
    transactionWord
    return .commitTransaction
  else if ← keyword? "rollback" then
    transactionWord
    return .rollbackTransaction
  else refuse

def finish : Parser Unit := do
  if (← peek?).isSome then sign ";"

end Parser

structure Parsed where
  statement : Statement
  source : Text
  placeholders : Nat

/-- The lexemes of a text from its first statement on. A text goes up to its first null
character. -/
def statementLexemes (s : Text) : List Lexeme :=
  (Lexeme.ofText (s.takeWhile (· ≠ '\x00'))).dropWhile (Lexeme.isSign ";")

def parseStatement (catalog : Catalog) (s : Text) : Except Refusal (Option Parsed × Text) := do
  let lexemes := statementLexemes s
  if lexemes.isEmpty then return (none, [])
  else
    let (statement, input) ← (Parser.statement catalog).run ⟨lexemes, 0, []⟩
    let ((), finished) ← Parser.finish.run input
    let rest : Text :=
      match finished.rest with
      | l :: _ => l.source
      | [] =>
        match input.rest with
        | l :: _ => l.source.drop l.text.length
        | [] => []
    return (some ⟨statement, Parser.span lexemes input.rest, input.placeholders⟩, rest)

end SqlDialect.Engine

import SqlDialect.Engine.Database
import SqlDialect.Number.Shortest

/-! The text in which a database is kept: statements that make it anew. -/

set_option autoImplicit false

namespace SqlDialect.Engine

def enclosed (mark : Char) (s : Text) : Text :=
  mark :: Text.replaceChar mark [mark, mark] s ++ [mark]

def realLiteral (x : Float) : Text :=
  let digits := floatText x
  if digits = "inf" then "9e999"
  else if digits = "-inf" then "-9e999"
  else if List.contains digits '.' then digits
  else digits ++ ".0"

namespace Datum

-- A value as an expression. A null character would end the text of a statement.
def toSql : Datum → Text
  | null => "NULL"
  | integer i => Text.ofInt i.toInt
  | real x => realLiteral x
  | text s =>
    if List.contains s '\x00' then "CAST(x'" ++ Text.bytesToHex s.toUtf8 ++ "' AS TEXT)"
    else enclosed '\'' s
  | blob b => 'x' :: enclosed '\'' (Text.bytesToHex b)

end Datum

def storageMark : Text := "-- tables, rows, indexes and views\n"

namespace Table

def rowidName? (table : Table) : Option Text :=
  if table.rowidColumn.isSome then none
  else Scope.rowidNames.find? fun name => (table.columnIndex? name).isNone

def insertion (table : Table) (row : Row) : Text :=
  let columns := table.columns.map fun c => enclosed '"' c.name
  let values := row.values.map Datum.toSql
  let (columns, values) :=
    match table.rowidName? with
    | some name => (name :: columns, Text.ofInt row.rowid.toInt :: values)
    | none => (columns, values)
  "INSERT INTO " ++ enclosed '"' table.name ++ " (" ++ List.intercalate ", " columns ++
    ") VALUES (" ++ List.intercalate ", " values ++ [')']

def statements (table : Table) : List Text :=
  table.definition :: table.rows.map table.insertion ++
    ((table.indexes.reverse.filter (·.name.isSome)).map Index.definition)

end Table

namespace Catalog

def statements (catalog : Catalog) : List Text :=
  catalog.tables.flatMap Table.statements ++ catalog.views.map View.definition

def toText (catalog : Catalog) : Text :=
  match catalog.statements with
  | [] => []
  | statements => storageMark ++ statements.flatMap (· ++ ['\n', ';', '\n'])

def ofText? (s : Text) : Option Catalog :=
  if s = [] then some .empty
  else if storageMark.isPrefixOf s then
    match (Database.ofCatalog .empty).runAll s with
    | (.ok (), db) => some db.saved
    | (.error _, _) => none
  else none

end Catalog

end SqlDialect.Engine

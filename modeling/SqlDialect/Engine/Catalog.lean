import SqlDialect.Engine.Statement

/-! What a database holds: tables with their rows, and views. -/

set_option autoImplicit false

namespace SqlDialect.Engine

structure TableColumn where
  name : Text
  /-- The declared type, or nothing. -/
  type : Text
  isNotNull : Bool
  default : Datum

def TableColumn.affinity (c : TableColumn) : Affinity := .ofType c.type

structure Check where
  label : Text
  condition : Expr Slot

structure Index where
  /-- An index that a table's definition asks for has no name. -/
  name : Option Text
  isUnique : Bool
  columns : List Nat
  definition : Text

structure Table where
  name : Text
  definition : Text
  columns : List TableColumn
  rowidColumn : Option Nat
  checks : List Check
  /-- The newest first. -/
  indexes : List Index
  /-- In ascending order of row numbers. The column that is the row number holds it too. -/
  rows : List Row

structure View where
  name : Text
  definition : Text
  query : Select

def noSuchTable (table : TableName) : Refusal := .rejected ("no such table: " ++ table.toText)

structure Catalog where
  tables : List Table
  views : List View

namespace Catalog

def empty : Catalog := ⟨[], []⟩

def table? (catalog : Catalog) (name : Text) : Option Table :=
  catalog.tables.find? (·.name.agrees name)

def view? (catalog : Catalog) (name : Text) : Option View :=
  catalog.views.find? (·.name.agrees name)

def findTable? (catalog : Catalog) (t : TableName) : Option Table :=
  if t.database.all (·.agrees "main") then catalog.table? t.table.name else none

def findView? (catalog : Catalog) (t : TableName) : Option View :=
  if t.database.all (·.agrees "main") then catalog.view? t.table.name else none

def tableOfIndex? (catalog : Catalog) (name : Text) : Option Table :=
  catalog.tables.find? fun table => table.indexes.any fun index => index.name.any (·.agrees name)

def replaceTable (catalog : Catalog) (table : Table) : Catalog :=
  { catalog with
    tables := catalog.tables.map fun t => if t.name.agrees table.name then table else t }

def taken? (catalog : Catalog) (object : TableName) : Option Refusal :=
  let name := object.table.name
  let written := object.table.written
  if (catalog.table? name).isSome then some (.rejected ("table " ++ written ++ " already exists"))
  else if (catalog.view? name).isSome then
    some (.rejected ("view " ++ written ++ " already exists"))
  else if (catalog.tableOfIndex? name).isSome then
    some (.rejected ("there is already an index named " ++ name))
  else none

end Catalog

namespace Table

def columnIndex? (table : Table) (name : Text) : Option Nat :=
  table.columns.findIdx? (·.name.agrees name)

def columnName (table : Table) (i : Nat) : Text :=
  ((table.columns[i]?).map TableColumn.name).getD []

def qualified (table : Table) (i : Nat) : Text := table.name ++ '.' :: table.columnName i

def slot (table : Table) (i : Nat) : Slot where
  place := .column i
  affinity := ((table.columns[i]?).map TableColumn.affinity).getD .blob

end Table

end SqlDialect.Engine

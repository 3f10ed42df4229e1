import SqlDialect.Engine.Change

/-! Making and removing tables, indexes and views. -/

set_option autoImplicit false

namespace SqlDialect.Engine

namespace Table

-- The default of a column; one that the engine cannot compute is the empty text.
def defaultOf (column : ColumnDefinition) : Datum :=
  match column.default with
  | none => .null
  | some e =>
    match Scope.empty.resolve e with
    | .ok e => e.eval [] [] none
    | .error _ => .text []

def positions (columns : List TableColumn) (names : List Text) : Except Refusal (List Nat) :=
  names.mapM fun name =>
    match columns.findIdx? (·.name.agrees name) with
    | some i => .ok i
    | none => .error (.rejected ("no such column: " ++ name))

def rowidColumnOf (columns : List TableColumn) : List TableRule → Option Nat
  | [] => none
  | .primaryKey [key] true :: rest =>
    match columns.findIdx? fun c => c.name.agrees key && c.type.agrees "INTEGER" with
    | some i => some i
    | none => rowidColumnOf columns rest
  | _ :: rest => rowidColumnOf columns rest

def withRule (table : Table) : TableRule → Except Refusal Table
  | .primaryKey names _ => do
    let positions ← positions table.columns names
    if table.rowidColumn.any (positions == [·]) then return table
    else return { table with indexes := ⟨none, true, positions, []⟩ :: table.indexes }
  | .unique names => do
    let positions ← positions table.columns names
    return { table with indexes := ⟨none, true, positions, []⟩ :: table.indexes }
  | .check label condition => do
    let condition ← (Scope.ofTable table table.name).resolveInRow condition
    return { table with checks := table.checks ++ [⟨label, condition⟩] }

def isKey : TableRule → Bool
  | .primaryKey .. => true
  | _ => false

def ofDefinition (name definition : Text) (columns : List ColumnDefinition) (rules : List TableRule) :
    Except Refusal Table := do
  if 1 < rules.countP isKey then
    throw (.rejected ("table \"" ++ name ++ "\" has more than one primary key"))
  let columns := columns.map fun c => ⟨c.name, c.type, c.isNotNull, defaultOf c⟩
  let table : Table := ⟨name, definition, columns, rowidColumnOf columns rules, [], [], []⟩
  rules.foldlM withRule table

def admits (table : Table) (index : Index) : Bool :=
  !index.isUnique || go table.rows
where
  go : List Row → Bool
    | [] => true
    | row :: rest => !(rest.any (collide index row)) && go rest

end Table

namespace Catalog

abbrev Step := Except Refusal Catalog

def createTable (catalog : Catalog) (definition : Text) (ifNotExists : Bool) (t : TableName)
    (columns : List ColumnDefinition) (rules : List TableRule) : Except Refusal Step :=
  match catalog.taken? t with
  | some refusal => if ifNotExists then .ok (.ok catalog) else .error refusal
  | none => do
    let table ← Table.ofDefinition t.table.name definition columns rules
    return .ok { catalog with tables := catalog.tables ++ [table] }

def createView (catalog : Catalog) (definition : Text) (ifNotExists : Bool) (v : TableName)
    (query : Select) : Except Refusal Step := do
  v.checkDatabase
  match catalog.taken? v with
  | some refusal => if ifNotExists then return .ok catalog else throw refusal
  | none =>
    return .ok { catalog with views := catalog.views ++ [⟨v.table.name, definition, query⟩] }

/-- An index on rows that already violate it is refused only when the statement runs. -/
def createIndex (catalog : Catalog) (definition : Text) (isUnique ifNotExists : Bool)
    (i : TableName) (t : Identifier) (names : List Text) : Except Refusal Step := do
  i.checkDatabase
  let name := i.table.name
  match catalog.table? t.name with
  | none =>
    if (catalog.view? t.name).isSome then throw (.rejected "views may not be indexed")
    else throw (noSuchTable ⟨some "main", t⟩)
  | some table =>
    if (catalog.table? name).isSome || (catalog.view? name).isSome then
      throw (.rejected ("there is already a table named " ++ name))
    else if (catalog.tableOfIndex? name).isSome then
      if ifNotExists then return .ok catalog
      else throw (.rejected ("index " ++ name ++ " already exists"))
    else
      let positions ← Table.positions table.columns names
      let index : Index := ⟨some name, isUnique, positions, definition⟩
      if table.admits index then
        return .ok (catalog.replaceTable { table with indexes := index :: table.indexes })
      else return .error (table.uniqueFailed index)

def drop (catalog : Catalog) (kind : ObjectKind) (ifExists : Bool) (object : TableName) :
    Except Refusal Step :=
  let name := object.table.name
  let missing (word : Text) : Except Refusal Step :=
    if ifExists then .ok (.ok catalog)
    else .error (.rejected ("no such " ++ word ++ ": " ++ object.toText))
  match kind with
  | .table =>
    match catalog.findTable? object, catalog.findView? object with
    | some _, _ =>
      .ok (.ok { catalog with tables := catalog.tables.filter (!·.name.agrees name) })
    | none, some view =>
      .error (.rejected ("use DROP VIEW to delete view " ++ view.name))
    | none, none => missing "table"
  | .view =>
    match catalog.findView? object, catalog.findTable? object with
    | some _, _ =>
      .ok (.ok { catalog with views := catalog.views.filter (!·.name.agrees name) })
    | none, some table =>
      .error (.rejected ("use DROP TABLE to delete table " ++ table.name))
    | none, none => missing "view"
  | .index =>
    match catalog.tableOfIndex? name with
    | some table =>
      let kept := table.indexes.filter fun index => !(index.name.any (·.agrees name))
      .ok (.ok (catalog.replaceTable { table with indexes := kept }))
    | none => missing "index"

end Catalog

end SqlDialect.Engine

import SqlDialect.Engine.Catalog

/-! What the names in a statement stand for.

A name stands for a column of the table that the statement is about, for the number of its rows,
or for a labelled result. A name in double quotation marks that stands for nothing is a string.
-/

set_option autoImplicit false

namespace SqlDialect.Engine

structure ScopeColumn where
  name : Text
  type : Text
  slot : Slot

structure Scope where
  qualifier : Text
  columns : List ScopeColumn
  /-- What stands for the number of a row, if rows have numbers. -/
  rowid : Option ScopeColumn
  labels : List (Text × Expr Slot)

namespace Scope

def empty : Scope := ⟨[], [], none, []⟩

def ofTable (table : Table) (qualifier : Text) : Scope where
  qualifier := qualifier
  columns := table.columns.zipIdx.map fun (c, i) => ⟨c.name, c.type, table.slot i⟩
  rowid := some (rowidColumn table)
  labels := []
where
  rowidColumn (table : Table) : ScopeColumn :=
    match table.rowidColumn with
    | some i => ⟨table.columnName i, "INTEGER", ⟨.rowid, .integer⟩⟩
    | none => ⟨"rowid", "INTEGER", ⟨.rowid, .integer⟩⟩

/-- The names of the number of a row, unless columns have them. -/
def rowidNames : List Text := ["rowid", "oid", "_rowid_"]

def column? (scope : Scope) (n : Name) : Option ScopeColumn :=
  if n.table.all scope.qualifier.agrees then
    match scope.columns.find? (·.name.agrees n.column) with
    | some column => some column
    | none => if rowidNames.any n.column.agrees then scope.rowid else none
  else none

def constant? (n : Name) : Option Datum :=
  if n.table.isSome then none
  else if n.maybeString then some (.text n.column)
  else if n.column.agrees "true" then some (.integer 1)
  else if n.column.agrees "false" then some (.integer 0)
  else none

def label? (scope : Scope) (n : Name) : Option (Expr Slot) :=
  if n.table.isSome then none
  else (scope.labels.find? (·.1.agrees n.column)).map Prod.snd

/-- What a name stands for: a column before a label, and a label before a constant. -/
def lookUp (scope : Scope) (n : Name) : Except Refusal (Expr Slot) :=
  match scope.column? n with
  | some column => .ok (.name column.slot)
  | none =>
    match scope.label? n with
    | some e => .ok e
    | none =>
      match constant? n with
      | some d => .ok (.literal d)
      | none => .error (.rejected ("no such column: " ++ n.toText))

def resolve (scope : Scope) (e : Expr Name) : Except Refusal (Expr Slot) := e.resolve scope.lookUp

def resolveInRow (scope : Scope) (e : Expr Name) : Except Refusal (Expr Slot) := do
  let value ← scope.resolve e
  match e.aggregate? with
  | some word => throw (misusedAggregate word)
  | none => return value

def condition? (scope : Scope) : Option (Expr Name) → Except Refusal (Option (Expr Slot))
  | none => .ok none
  | some e => (scope.resolveInRow e).map some

end Scope

/-! Results -/

structure ResultColumn where
  name : Text
  label : Option Text
  type : Text
  value : Expr Slot

namespace Scope

def resultOfColumn (c : ScopeColumn) : ResultColumn := ⟨c.name, none, c.type, .name c.slot⟩

/-- The result that an expression gives: a column of the table keeps its name and type. -/
def result (scope : Scope) (e : Expr Name) (label : Option Text) (source : Text) :
    Except Refusal ResultColumn := do
  let value ← scope.resolve e
  let column? : Option ScopeColumn :=
    match e with
    | .name n => scope.column? n
    | _ => none
  match column? with
  | some column => return ⟨label.getD column.name, label, column.type, value⟩
  | none => return ⟨label.getD source, label, [], value⟩

def resultsOfItem (scope : Scope) : Item → Except Refusal (List ResultColumn)
  | .all none => .ok (scope.columns.map resultOfColumn)
  | .all (some table) =>
    if scope.qualifier.agrees table then .ok (scope.columns.map resultOfColumn)
    else .error (.rejected ("no such table: " ++ table))
  | .expr e label source => return [← scope.result e label source]

def results (scope : Scope) (items : List Item) : Except Refusal (List ResultColumn) :=
  return (← items.mapM scope.resultsOfItem).flatten

def resultsInRow (scope : Scope) (items : List Item) : Except Refusal (List ResultColumn) := do
  let results ← scope.results items
  match results.findSome? (·.value.aggregate?) with
  | some word => throw (misusedAggregate word)
  | none => return results

def withLabels (scope : Scope) (results : List ResultColumn) : Scope :=
  { scope with labels := results.filterMap fun r => r.label.map fun label => (label, r.value) }

end Scope

end SqlDialect.Engine

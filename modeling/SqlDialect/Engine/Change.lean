import SqlDialect.Engine.Query

/-! Inserting, updating and deleting rows.

Rows are written one after another. A row that violates a constraint ends the statement, and then
the table stays as it was before the statement.
-/

set_option autoImplicit false

namespace SqlDialect.Engine

structure NewRow where
  rowid : Option (Expr Slot)
  /-- In the order of the columns. -/
  values : List (Expr Slot)

inductive Edit where
  | insert (rows : List NewRow)
  | update (assignments : List (Place × Expr Slot)) (condition : Option (Expr Slot))
  | delete (condition : Option (Expr Slot))

structure Change where
  table : Table
  edit : Edit
  returning : List ResultColumn

/-! Constraints -/

namespace Table

def storedRow (table : Table) (rowid : Int64) (values : List Datum) : Row where
  rowid := rowid
  values := table.columns.zipIdx.map fun (c, i) =>
    if table.rowidColumn = some i then .integer rowid
    else (values.getD i .null).store c.affinity

def rowidLabel (table : Table) : Text :=
  match table.rowidColumn with
  | some i => table.qualified i
  | none => table.name ++ ".rowid"

def missingValue? (table : Table) (row : Row) : Option Refusal :=
  (table.columns.zipIdx.find? fun (c, i) => c.isNotNull && (row.values.getD i .null).isNull).map
    fun (_, i) => .constraint ("NOT NULL constraint failed: " ++ table.qualified i)

/-- A condition of unknown truth is not violated. -/
def failedCheck? (table : Table) (row : Row) : Option Refusal :=
  (table.checks.find? fun check => (check.condition.eval [] [] (some row)).truth? == some false).map
    fun check => .constraint ("CHECK constraint failed: " ++ check.label)

-- Whether two rows have the same values in the columns of an index; missing values are never the
-- same.
def collide (index : Index) (a b : Row) : Bool :=
  index.columns.all fun i =>
    let value (row : Row) : Datum := row.values.getD i .null
    !(value a).isNull && (value a).compare (value b) == .eq

def uniqueFailed (table : Table) (index : Index) : Refusal :=
  .constraint ("UNIQUE constraint failed: " ++
    List.intercalate ", " (index.columns.map table.qualified))

def duplicate? (table : Table) (others : List Row) (row : Row) : Option Refusal :=
  if others.any (·.rowid == row.rowid) then
    some (.constraint ("UNIQUE constraint failed: " ++ table.rowidLabel))
  else
    (table.indexes.find? fun index => index.isUnique && others.any (collide index row)).map
      table.uniqueFailed

/-- The first constraint that a row beside others violates: missing values are looked for first,
then conditions are checked, and last comes uniqueness. -/
def violation? (table : Table) (others : List Row) (row : Row) : Option Refusal :=
  (table.missingValue? row).or <| (table.failedCheck? row).or <| table.duplicate? others row

def write (table : Table) (others : List Row) (row : Row) : Except Refusal Table :=
  match table.violation? others row with
  | some refusal => .error refusal
  | none =>
    let before := others.takeWhile (·.rowid < row.rowid)
    .ok { table with rows := before ++ row :: others.drop before.length }

def freeRowid (table : Table) : Int64 :=
  let numbers := (List.range (table.rows.length + 1)).map fun n => Int64.ofNat (n + 1)
  (numbers.find? fun n => table.rows.all (·.rowid != n)).getD 1

/-- The number of the next row: one more than the largest, unless that is the last there is. -/
def nextRowid (table : Table) : Int64 :=
  match table.rows.getLast? with
  | none => 1
  | some row => if row.rowid = Int64.maxValue then table.freeRowid else row.rowid + 1

end Table

def rowidOf (d : Datum) : Except Refusal Int64 :=
  match d.store .integer with
  | .integer i => .ok i
  | _ => .error (.rejected "datatype mismatch")

/-! Running -/

namespace Change

structure Outcome where
  touched : List Row
  table : Except Refusal Table

def writeEach {α : Type} (write : Table → α → Except Refusal (Table × Row)) (table : Table) :
    List α → Outcome
  | [] => ⟨[], .ok table⟩
  | a :: rest =>
    match write table a with
    | .error refusal => ⟨[], .error refusal⟩
    | .ok (table, row) =>
      let outcome := writeEach write table rest
      { outcome with touched := row :: outcome.touched }

def insertRow (bound : List Datum) (table : Table) (new : NewRow) :
    Except Refusal (Table × Row) := do
  let rowid ←
    match (new.rowid.map (·.eval bound [] none)).getD .null with
    | .null => .ok table.nextRowid
    | d => rowidOf d
  let row := table.storedRow rowid (new.values.map (·.eval bound [] none))
  return (← table.write table.rows row, row)

-- A row with the values that it is assigned; of two assignments to one place the last counts.
def updateRow (bound : List Datum) (assignments : List (Place × Expr Slot)) (table : Table)
    (old : Row) : Except Refusal (Table × Row) := do
  let assigned (place : Place) : Option Datum :=
    (assignments.reverse.lookup place).map (·.eval bound [] (some old))
  let rowid ← ((assigned .rowid).map rowidOf).getD (.ok old.rowid)
  let values := old.values.zipIdx.map fun (d, i) => (assigned (.column i)).getD d
  let row := table.storedRow rowid values
  let others := table.rows.filter (·.rowid != old.rowid)
  return (← table.write others row, row)

def chosen (bound : List Datum) (table : Table) (condition : Option (Expr Slot)) : List Row :=
  table.rows.filter fun row => condition.all (·.accepts bound (some row))

def outcome (c : Change) (bound : List Datum) : Outcome :=
  match c.edit with
  | .insert rows => writeEach (insertRow bound) c.table rows
  | .update assignments condition =>
    writeEach (updateRow bound assignments) c.table (chosen bound c.table condition)
  | .delete condition =>
    let deleted := chosen bound c.table condition
    let kept := c.table.rows.filter fun row => !(deleted.any (·.rowid == row.rowid))
    ⟨deleted, .ok { c.table with rows := kept }⟩

def answer (c : Change) (bound : List Datum) (row : Row) : List Datum :=
  c.returning.map fun r => r.value.eval bound [] (some row)

end Change

/-! Resolving the names of a change -/

namespace Table

def place? (table : Table) (name : Text) : Option Place :=
  match table.columnIndex? name with
  | some i => some (if table.rowidColumn = some i then .rowid else .column i)
  | none => if Scope.rowidNames.any name.agrees then some .rowid else none

def places (table : Table) : List Place :=
  (List.range table.columns.length).map fun i =>
    if table.rowidColumn = some i then .rowid else .column i

-- A new row by the expressions for some places; of two for one place the first counts.
def newRow (table : Table) (given : List (Place × Expr Slot)) : NewRow where
  rowid := given.lookup .rowid
  values := table.columns.zipIdx.map fun (c, i) =>
    (given.lookup (.column i)).getD (.literal c.default)

-- The rows of an insertion into the named columns. Messages name the table as the statement does.
def newRows (table : Table) (label : Text) (columns : Option (List Text)) :
    Insertion → Except Refusal (List NewRow)
  | .defaults => .ok [table.newRow []]
  | .values rows => do
    let places ←
      match columns with
      | none => pure table.places
      | some names => names.mapM fun name =>
        match table.place? name with
        | some place => .ok place
        | none =>
          .error (.rejected ("table " ++ label ++ " has no column named " ++ name))
    let rows ← rows.mapM (·.mapM Scope.empty.resolveInRow)
    let given := (rows.head?.map List.length).getD 0
    if given = places.length then return rows.map fun row => table.newRow (places.zip row)
    else
      match columns with
      | none =>
        throw (.rejected ("table " ++ label ++ " has " ++ Text.ofNat places.length ++
          " columns but " ++ Text.ofNat given ++ " values were supplied"))
      | some _ =>
        throw (.rejected (Text.ofNat given ++ " values for " ++ Text.ofNat places.length ++
          " columns"))

def assignment (table : Table) (scope : Scope) (a : Text × Expr Name) :
    Except Refusal (Place × Expr Slot) := do
  let value ← scope.resolveInRow a.2
  match table.place? a.1 with
  | some place => return (place, value)
  | none => throw (.rejected ("no such column: " ++ a.1))

end Table

namespace Catalog

def changeable (catalog : Catalog) (t : TableName) : Except Refusal Table :=
  match catalog.findTable? t with
  | some table => .ok table
  | none =>
    match catalog.findView? t with
    | some view => do
      let _ ← catalog.query view.query.inMain
      throw (.rejected ("cannot modify " ++ view.name ++ " because it is a view"))
    | none => .error (noSuchTable t)

def insertion (catalog : Catalog) (t : TableName) (columns : Option (List Text))
    (insertion : Insertion) (returning : List Item) : Except Refusal Change := do
  let table ← catalog.changeable t
  let rows ← table.newRows t.toText columns insertion
  return ⟨table, .insert rows, ← (Scope.ofTable table table.name).resultsInRow returning⟩

def update (catalog : Catalog) (t : TableName) (assignments : List (Text × Expr Name))
    (condition : Option (Expr Name)) (returning : List Item) : Except Refusal Change := do
  let table ← catalog.changeable t
  let scope := Scope.ofTable table table.name
  let assignments ← assignments.mapM (table.assignment scope)
  let condition ← scope.condition? condition
  return ⟨table, .update assignments condition, ← scope.resultsInRow returning⟩

def deletion (catalog : Catalog) (t : TableName) (condition : Option (Expr Name))
    (returning : List Item) : Except Refusal Change := do
  let table ← catalog.changeable t
  let scope := Scope.ofTable table table.name
  let condition ← scope.condition? condition
  return ⟨table, .delete condition, ← scope.resultsInRow returning⟩

end Catalog

end SqlDialect.Engine

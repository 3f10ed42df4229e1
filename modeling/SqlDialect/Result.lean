import SqlDialect.Cell.Basic
import SqlDialect.Text.Utf8

/-! The outcome of a statement: columns and rows, or the number of rows it changed. -/

set_option autoImplicit false

namespace SqlDialect

structure Column where
  name : Text
  type : Text
  width : Nat
  deriving DecidableEq

structure ResultSet where
  columns : List Column
  rows : List (List Cell)
  /-- The number of changed rows, of a statement that has no columns. -/
  affected : Option Nat

namespace ResultSet

/-- The width of a column by its name, whose bytes are counted, and the cells at its place. -/
def columnWidth (measure : Text → Nat) (name : Text) (i : Nat) (rows : List (List Cell)) : Nat :=
  rows.foldl (fun width row =>
    match row[i]? with
    | some cell => max width (cell.widthBy measure)
    | none => width) name.byteLength

def measured (measure : Text → Nat) (columns : List (Text × Text)) (rows : List (List Cell)) :
    ResultSet where
  columns := columns.zipIdx.map fun ((name, type), i) =>
    ⟨name, type, columnWidth measure name i rows⟩
  rows := rows
  affected := none

def ofRows : List (Text × Text) → List (List Cell) → ResultSet := measured Text.width

def ofAffected (count : Nat) : ResultSet := ⟨[], [], some count⟩

def rowCount (result : ResultSet) : Nat := result.rows.length

end ResultSet

end SqlDialect

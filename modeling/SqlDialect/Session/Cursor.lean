import SqlDialect.Session.Basic

/-! A cursor: the result of the last statement, and how much of it has been read. -/

set_option autoImplicit false

namespace SqlDialect

structure Cursor where
  result : Option ResultSet
  position : Nat
  rowCount : Option Nat

namespace Cursor

def empty : Cursor := ⟨none, 0, none⟩

def ofResult (result : ResultSet) : Cursor :=
  ⟨some result, 0, some (result.affected.getD result.rowCount)⟩

def columns (c : Cursor) : List Column := (c.result.map ResultSet.columns).getD []

def rows (c : Cursor) : List (List Cell) := (c.result.map ResultSet.rows).getD []

def fetchOne (c : Cursor) : Option (List Cell) × Cursor :=
  match c.rows[c.position]? with
  | none => (none, c)
  | some row => (some row, { c with position := c.position + 1 })

def fetchAll (c : Cursor) : List (List Cell) × Cursor :=
  (c.rows.drop c.position, { c with position := max c.position c.rows.length })

variable {σ : Type}

/-- The cursor after a statement: without a result if the statement failed. -/
def execute (backend : Backend σ) (query : Text) (params : List Param) (s : σ) :
    Except Failure Unit × Cursor × σ :=
  match (backend.run query params).outcome s with
  | (.ok result, s) => (.ok (), ofResult result, s)
  | (.error failure, s) => (.error failure, empty, s)

/-- The cursor after a statement that was run for rows of parameters: it has no result. -/
def executeMany (backend : Backend σ) (query : Text) (rows : List (List Param)) (s : σ) :
    Except Failure Unit × Cursor × σ :=
  match (backend.runMany query rows).outcome s with
  | (.ok count, s) => (.ok (), { empty with rowCount := some count }, s)
  | (.error failure, s) => (.error failure, empty, s)

end Cursor

end SqlDialect

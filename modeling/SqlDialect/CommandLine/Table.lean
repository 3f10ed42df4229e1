import SqlDialect.Result

/-! Results printed as tables: every column is as wide as the widest of its cells and its name. How
many columns of a terminal a text takes is for a measure to say. -/

set_option autoImplicit false

namespace SqlDialect

section

variable (measure : Text → Nat)

def Text.padRight (width : Nat) (s : Text) : Text := s ++ List.replicate (width - measure s) ' '

namespace ResultSet

def headerLine (result : ResultSet) : Text :=
  List.intercalate " | " (result.columns.map fun c => Text.padRight measure c.width c.name)

def ruleLine (result : ResultSet) : Text :=
  List.intercalate "-+-" (result.columns.map fun c => List.replicate c.width '-')

def rowLine (result : ResultSet) (row : List Cell) : Text :=
  List.intercalate " | " ((row.zip result.columns).map fun (cell, c) =>
    Text.padRight measure c.width cell.display)

def tableLines (result : ResultSet) : List Text :=
  result.headerLine measure :: result.ruleLine :: result.rows.map (result.rowLine measure)

def toTable (result : ResultSet) (elapsed : Text) : Text :=
  (result.tableLines measure).flatMap (· ++ ['\n']) ++
    '(' :: Text.ofNat result.rowCount ++ " rows, " ++ elapsed ++ " ms)\n"

end ResultSet

end

end SqlDialect

import SqlDialect.Calendar.Interval
import SqlDialect.Calendar.Moment
import SqlDialect.Json.Basic
import SqlDialect.Text.Width

/-! Cells: the values bound to statements and fetched from either database. -/

set_option autoImplicit false

namespace SqlDialect

inductive Cell where
  | null
  | bool (b : Bool)
  | int (i : Int64)
  | float (x : Float)
  | text (s : Text)
  | bytes (b : List UInt8)
  | date (d : Date)
  /-- A moment in no particular time zone. -/
  | datetime (m : Moment)
  /-- A moment in universal time. -/
  | timestamp (m : Moment)
  | interval (i : Interval)
  | json (j : Json)
  | array (items : List Cell)

namespace Cell

def isNull : Cell → Bool
  | null => true
  | _ => false

mutual

def display : Cell → Text
  | null => "NULL"
  | bool b => if b then "true" else "false"
  | int i => Text.ofInt i.toInt
  | float x => floatText x
  | text s => s
  | bytes b => '[' :: Text.ofNat b.length ++ " bytes]"
  | date d => d.toText
  | datetime m => m.toText
  | timestamp m => m.toText ++ " UTC"
  | interval i => i.toText
  | json j => j.toText
  | array items => '\x7b' :: displayItems items ++ ['\x7d']

def displayItems : List Cell → Text
  | [] => []
  | [item] => display item
  | item :: rest => display item ++ ", " ++ displayItems rest

end

def widthBy (measure : Text → Nat) (c : Cell) : Nat := measure c.display

def width : Cell → Nat := widthBy Text.width

def literal : Cell → Text
  | text s => '\'' :: Text.replaceChar '\'' "''" s ++ ['\'']
  | c => c.display

def literals (cells : List Cell) : Text :=
  '[' :: List.intercalate ", " (cells.map literal) ++ [']']

end Cell

-- One value given for a statement. A list is spread over one placeholder by the dialect that has
-- no arrays, and is an array for the other.
inductive Param where
  | scalar (c : Cell)
  | list (items : List Cell)

namespace Param

def isList : Param → Bool
  | list _ => true
  | scalar _ => false

def literal : Param → Text
  | scalar c => c.literal
  | list items => Cell.literals items

def literals (params : List Param) : Text :=
  '[' :: List.intercalate ", " (params.map literal) ++ [']']

def cells : Param → List Cell
  | scalar c => [c]
  | list items => items

end Param

end SqlDialect

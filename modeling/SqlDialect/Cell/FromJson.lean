import SqlDialect.Cell.Basic
import SqlDialect.Json.Reader

/-! Parameters written as a JSON array; an array in it is a list. -/

set_option autoImplicit false

namespace SqlDialect

namespace Cell

def ofJsonNumber : JsonNumber → Cell
  | .whole i =>
    if i ≤ Int64.maxValue.toInt then int (Int64.ofInt i)
    else float (Float.ofScientific i.natAbs false 0)
  | .float x => float x

mutual

def ofJson : Json → Cell
  | .null => null
  | .bool b => bool b
  | .number n => ofJsonNumber n
  | .string s => text s
  | .array items => array (ofJsonItems items)
  | .object entries => json (.object entries)

def ofJsonItems : List Json → List Cell
  | [] => []
  | item :: rest => ofJson item :: ofJsonItems rest

end

end Cell

namespace Param

def ofJson : Json → Param
  | .array items => list (items.map Cell.ofJson)
  | j => scalar (Cell.ofJson j)

def parseList (s : Text) : Except Json.Problem (List Param) :=
  (Json.parseArray s).map (·.map ofJson)

end Param

end SqlDialect

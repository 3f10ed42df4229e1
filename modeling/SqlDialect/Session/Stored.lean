import SqlDialect.Cell.Declared
import SqlDialect.Engine.Datum

/-! The form in which cells are stored.

Truth values are stored as numbers, moments as the seconds from the start of 1970, dates as text
and lengths of time as seconds.
-/

set_option autoImplicit false

namespace SqlDialect.Cell

-- The stored form of a cell; arrays have none.
def stored? : Cell → Option Engine.Datum
  | null => some .null
  | bool b => some (.integer (if b then 1 else 0))
  | int i => some (.integer i)
  | float x => some (.ofFloat x)
  | text s => some (.text s)
  | bytes b => some (.blob b)
  | date d => some (.text d.toText)
  | datetime m => some (.integer (Int64.ofInt m.epochSecond))
  | timestamp m => some (.integer (Int64.ofInt m.epochSecond))
  | interval i => some (.integer (Int64.ofInt i.seconds))
  | json j => some (.text j.toText)
  | array _ => none

def ofStored? (type : Text) (d : Engine.Datum) : Option Cell := d.toCell.decodeDeclared type

end SqlDialect.Cell

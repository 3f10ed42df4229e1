import SqlDialect.Text.Basic

/-! The number of columns a text takes on a terminal, told by blocks of characters: none for
combining marks, two for the wide characters of East Asian scripts, one for the rest. This is the
measure that results are printed with; no property of a table rests on its blocks. -/

set_option autoImplicit false

namespace SqlDialect

def takesNoColumn (c : Char) : Bool :=
  let n := c.toNat
  n == 0x0A || (0x300 ≤ n && n ≤ 0x36F) || (0x200B ≤ n && n ≤ 0x200F) ||
    (0x20D0 ≤ n && n ≤ 0x20F0) || (0xFE00 ≤ n && n ≤ 0xFE0F) || n == 0xFEFF

def takesTwoColumns (c : Char) : Bool :=
  let n := c.toNat
  (0x1100 ≤ n && n ≤ 0x115F) || (0x2E80 ≤ n && n ≤ 0x303E) || (0x3041 ≤ n && n ≤ 0xA4CF) ||
    (0xAC00 ≤ n && n ≤ 0xD7A3) || (0xF900 ≤ n && n ≤ 0xFAFF) || (0xFE30 ≤ n && n ≤ 0xFE6F) ||
    (0xFF01 ≤ n && n ≤ 0xFF60) || (0xFFE0 ≤ n && n ≤ 0xFFE6) || (0x1F300 ≤ n && n ≤ 0x1F64F) ||
    (0x1F680 ≤ n && n ≤ 0x1F6FF) || (0x1F900 ≤ n && n ≤ 0x1F9FF) || (0x20000 ≤ n && n ≤ 0x3FFFD)

def charWidth (c : Char) : Nat :=
  if takesNoColumn c then 0 else if takesTwoColumns c then 2 else 1

namespace Text

-- The columns a text takes; a carriage return right before a line feed takes none.
def width : Text → Nat
  | [] => 0
  | '\r' :: '\n' :: r => width r
  | c :: r => charWidth c + width r

end Text

end SqlDialect

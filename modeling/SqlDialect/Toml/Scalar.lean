import SqlDialect.Calendar.Date
import SqlDialect.Number.Decimal
import SqlDialect.Toml.Basic

/-! The values of a TOML document that hold no others: strings in four forms, numbers, and dates
and times. -/

set_option autoImplicit false

namespace SqlDialect.Toml

def isSpace (c : Char) : Bool := c == ' ' || c == '\t'

def dropSpace (s : Text) : Text := s.dropWhile isSpace

/-- The characters of comments and strings: of the control characters only the tab. -/
def isPlain (c : Char) : Bool := c == '\t' || (0x20 ≤ c.toNat && c.toNat != 0x7F)

def afterNewline? : Text → Option Text
  | '\n' :: r => some r
  | '\r' :: '\n' :: r => some r
  | _ => none

/-! Strings -/

def escaped? (c : Char) : Option Char :=
  match c with
  | '"' => some '"'
  | '\\' => some '\\'
  | 'b' => some '\x08'
  | 'f' => some '\x0c'
  | 'n' => some '\n'
  | 'r' => some '\r'
  | 't' => some '\t'
  | _ => none

def codePoint? (digits : Text) : Option Char := do
  let values ← digits.mapM Text.hexDigitValue?
  let n := values.foldl (fun n d => 16 * n + d) 0
  if n < 0xD800 ∨ (0xE000 ≤ n ∧ n ≤ 0x10FFFF) then some (Char.ofNat n) else none

def prepend (c : Char) (reading : Option (Text × Text)) : Option (Text × Text) :=
  reading.map fun (s, r) => (c :: s, r)

def readBasic : Text → Option (Text × Text)
  | [] => none
  | '"' :: r => some ([], r)
  | '\\' :: 'u' :: a :: b :: c :: d :: r =>
    (codePoint? [a, b, c, d]).bind fun x => prepend x (readBasic r)
  | '\\' :: 'U' :: a :: b :: c :: d :: e :: f :: g :: h :: r =>
    (codePoint? [a, b, c, d, e, f, g, h]).bind fun x => prepend x (readBasic r)
  | '\\' :: e :: r => (escaped? e).bind fun x => prepend x (readBasic r)
  | c :: r => if isPlain c ∧ c ≠ '\\' then prepend c (readBasic r) else none

def readLiteral : Text → Option (Text × Text)
  | [] => none
  | '\'' :: r => some ([], r)
  | c :: r => if isPlain c then prepend c (readLiteral r) else none

/-- Up to two marks before the three that close a string of many lines belong to it. -/
def closingMarks (mark : Char) : Text → Text × Text
  | a :: b :: r =>
    if a = mark then if b = mark then ([mark, mark], r) else ([mark], b :: r) else ([], a :: b :: r)
  | [a] => if a = mark then ([mark], []) else ([], [a])
  | [] => ([], [])

def isLineEnd (s : Text) : Bool := (afterNewline? (dropSpace s)).isSome

-- The rest of a string of many lines after its opening marks. A backslash at the end of a line
-- takes away the white space after it, which is being done while `skipping`.
def readBasicLines : Bool → Text → Option (Text × Text)
  | _, [] => none
  | skipping, '\n' :: r => if skipping then readBasicLines true r else prepend '\n' (readBasicLines false r)
  | skipping, '\r' :: '\n' :: r =>
    if skipping then readBasicLines true r else prepend '\n' (readBasicLines false r)
  | _, '"' :: '"' :: '"' :: r => some (closingMarks '"' r)
  | _, '\\' :: 'u' :: a :: b :: c :: d :: r =>
    (codePoint? [a, b, c, d]).bind fun x => prepend x (readBasicLines false r)
  | _, '\\' :: 'U' :: a :: b :: c :: d :: e :: f :: g :: h :: r =>
    (codePoint? [a, b, c, d, e, f, g, h]).bind fun x => prepend x (readBasicLines false r)
  | _, '\\' :: e :: r =>
    if isLineEnd (e :: r) then readBasicLines true (e :: r)
    else (escaped? e).bind fun x => prepend x (readBasicLines false r)
  | skipping, c :: r =>
    if skipping ∧ isSpace c then readBasicLines true r
    else if isPlain c ∧ c ≠ '\\' then prepend c (readBasicLines false r)
    else none

def readLiteralLines : Text → Option (Text × Text)
  | [] => none
  | '\n' :: r => prepend '\n' (readLiteralLines r)
  | '\r' :: '\n' :: r => prepend '\n' (readLiteralLines r)
  | '\'' :: '\'' :: '\'' :: r => some (closingMarks '\'' r)
  | c :: r => if isPlain c then prepend c (readLiteralLines r) else none

/-- A line feed right after the opening marks is no part of a string of many lines. -/
def dropNewline (s : Text) : Text := (afterNewline? s).getD s

def readString : Text → Option (Text × Text)
  | '"' :: '"' :: '"' :: r => readBasicLines false (dropNewline r)
  | '"' :: r => readBasic r
  | '\'' :: '\'' :: '\'' :: r => readLiteralLines (dropNewline r)
  | '\'' :: r => readLiteral r
  | _ => none

/-! Numbers -/

def readDigits (isDigit : Char → Bool) (s : Text) : Option (Text × Text) :=
  let run := s.takeWhile fun c => isDigit c || c == '_'
  if (Text.fields '_' run).all (· ≠ []) then some (run.filter (· ≠ '_'), s.drop run.length) else none

def readInBase (base : Nat) (s : Text) : Option (Toml × Text) := do
  let isDigit (c : Char) : Bool := ((Text.hexDigitValue? c).map fun d => decide (d < base)).getD false
  let (digits, r) ← readDigits isDigit s
  let values ← digits.mapM Text.hexDigitValue?
  let n := values.foldl (fun n d => base * n + d) 0
  if 2 * n < UInt64.size then some (integer n, r) else none

def readFraction : Text → Option (Option Text × Text)
  | '.' :: r => (readDigits Char.isDigit r).map fun (digits, r) => (some digits, r)
  | r => some (none, r)

def readPower : Text → Option (Option Int × Text)
  | c :: r =>
    if c = 'e' ∨ c = 'E' then
      let (negative, r) := readSign r
      (readDigits Char.isDigit r).map fun (digits, r) =>
        let n : Int := Text.digitsValue digits
        (some (if negative then -n else n), r)
    else some (none, c :: r)
  | [] => some (none, [])

-- A number in decimal digits after its sign. It is whole without a point and a power of ten. A
-- whole number fits 64 bits with sign, and a number too large for floating point is refused unless
-- it is negative.
def readDecimal (negative : Bool) (s : Text) : Option (Toml × Text) := do
  let (whole, r) ← readDigits Char.isDigit s
  if whole.head? = some '0' ∧ 1 < s.length - r.length then none
  else
    let (fraction, r) ← readFraction r
    let (power, r) ← readPower r
    match fraction, power with
    | none, none =>
      let n : Int := Text.digitsValue whole
      let i := if negative then -n else n
      if Int64.minValue.toInt ≤ i ∧ i ≤ Int64.maxValue.toInt then some (integer i, r) else none
    | fraction, power =>
      let digits := Text.digitsValue (whole ++ fraction.getD [])
      let x := (Decimal.mk digits (power.getD 0 - (fraction.getD []).length)).toFloat
      if negative then some (float (-x), r)
      else if x.isInf then none
      else some (float x, r)

def afterWord? (word s : Text) : Option Text :=
  if word.isPrefixOf s then some (s.drop word.length) else none

def readNumber (s : Text) : Option (Toml × Text) :=
  match s with
  | '0' :: 'x' :: r => readInBase 16 r
  | '0' :: 'o' :: r => readInBase 8 r
  | '0' :: 'b' :: r => readInBase 2 r
  | s =>
    let (negative, r) := readSign s
    match afterWord? "inf" r, afterWord? "nan" r with
    | some r, _ => some (float (Float.ofBits (if negative then 0xFFF0000000000000 else 0x7FF0000000000000)), r)
    | _, some r => some (float (Float.ofBits 0x7FF8000000000000), r)
    | none, none => readDecimal negative r

/-! Dates and times -/

def readPart (size low high : Nat) (s : Text) : Option (Nat × Text) :=
  let digits := s.take size
  let n := Text.digitsValue digits
  if digits.length = size ∧ digits.all Char.isDigit ∧ low ≤ n ∧ n ≤ high then some (n, s.drop size)
  else none

def afterMark? (mark : Char) : Text → Option Text
  | [] => none
  | c :: r => if c = mark then some r else none

def afterDate? (s : Text) : Option Text := do
  let (year, s) ← readPart 4 0 9999 s
  let s ← afterMark? '-' s
  let (month, s) ← readPart 2 1 12 s
  let s ← afterMark? '-' s
  let (_, s) ← readPart 2 1 (daysInMonth year month) s
  return s

def afterTime? (s : Text) : Option Text := do
  let (_, s) ← readPart 2 0 23 s
  let s ← afterMark? ':' s
  let (_, s) ← readPart 2 0 59 s
  let s ← afterMark? ':' s
  let (_, s) ← readPart 2 0 60 s
  match s with
  | '.' :: r => if (r.takeWhile Char.isDigit) = [] then some s else some (r.dropWhile Char.isDigit)
  | s => some s

def afterOffset (s : Text) : Text :=
  match s with
  | 'Z' :: r => r
  | 'z' :: r => r
  | c :: r =>
    if c = '+' ∨ c = '-' then
      let after? : Option Text := do
        let (_, r) ← readPart 2 0 23 r
        let r ← afterMark? ':' r
        let (_, r) ← readPart 2 0 59 r
        return r
      after?.getD s
    else s
  | [] => []

/-- The text after a date, a time of day, or a date with a time of day and perhaps a distance
from universal time. -/
def afterDatetime? (s : Text) : Option Text :=
  match afterDate? s with
  | some r =>
    match r with
    | c :: t =>
      if c = 'T' ∨ c = 't' ∨ c = ' ' then some (((afterTime? t).map afterOffset).getD r) else some r
    | [] => some []
  | none => afterTime? s

def readDatetime (s : Text) : Option (Toml × Text) :=
  (afterDatetime? s).map fun r => (datetime (s.take (s.length - r.length)), r)

end SqlDialect.Toml

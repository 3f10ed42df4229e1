import SqlDialect.Cell.Basic
import SqlDialect.Text.Utf8

/-! Stored values: five kinds, their order, and how one kind is taken for another.

Every column of a table prefers some kind of value. What is stored in it is turned into that
kind where nothing is lost.
-/

set_option autoImplicit false

namespace SqlDialect.Engine

inductive Datum where
  | null
  | integer (i : Int64)
  | real (x : Float)
  | text (s : Text)
  | blob (b : List UInt8)

inductive Affinity where
  | blob
  | text
  | numeric
  | integer
  | real
  deriving DecidableEq

namespace Affinity

def isNumeric : Affinity → Bool
  | numeric | integer | real => true
  | _ => false

def ofType (type : Text) : Affinity :=
  let mentions (word : Text) : Bool := Text.contains word type.fold
  if type = [] then blob
  else if mentions "int" then integer
  else if mentions "char" || mentions "clob" || mentions "text" then text
  else if mentions "blob" then blob
  else if mentions "real" || mentions "floa" || mentions "doub" then real
  else numeric

end Affinity

/-! Numbers in text -/

def isGap (c : Char) : Bool := c == ' ' || (9 ≤ c.toNat && c.toNat ≤ 13)

def dropGap (s : Text) : Text := s.dropWhile isGap

def fitsInt64 (i : Int) : Bool := Int64.minValue.toInt ≤ i && i ≤ Int64.maxValue.toInt

def readNumber (s : Text) : Option (Datum × Text) :=
  let (negative, unsigned) := readSign (dropGap s)
  (Decimal.read? unsigned).map fun (d, rest) =>
    let spelling := unsigned.take (unsigned.length - rest.length)
    let value : Int := if negative then -(d.digits : Int) else d.digits
    if spelling.all Char.isDigit && fitsInt64 value then (.integer (Int64.ofInt value), rest)
    else (.real (if negative then -d.toFloat else d.toFloat), rest)

def number? (s : Text) : Option Datum :=
  match readNumber s with
  | some (d, rest) => if dropGap rest = [] then some d else none
  | none => none

-- A floating-point number in fifteen significant digits; there is always a point.
def realText (x : Float) : Text :=
  match Binary.ofFloat x with
  | .nan => "NaN"
  | .infinite negative => signed negative "Inf"
  | .finite negative 0 _ => signed negative "0.0"
  | .finite negative significand exponent =>
    let d := Binary.significant 15 significand exponent
    let (digits, point) := d.digitsAndPoint
    signed negative <|
      if -4 < point ∧ point ≤ 15 then
        if digits.length ≤ point then d.positional ++ ".0" else d.positional
      else
        let mantissa := if digits.length = 1 then digits ++ ".0" else Decimal.pointed digits
        let e := point - 1
        mantissa ++ 'e' :: (if e < 0 then '-' else '+') :: Text.padLeft '0' 2 (Text.ofNat e.natAbs)

def wholeOfReal? (x : Float) : Option Int64 :=
  match Binary.ofFloat x with
  | .finite negative significand exponent =>
    let power := Nat.pow 2 exponent.natAbs
    let size : Int := if 0 ≤ exponent then significand * power else significand / power
    let isWhole := 0 ≤ exponent || significand % power == 0
    if isWhole && size < Int64.maxValue.toInt then
      some (Int64.ofInt (if negative then -size else size))
    else none
  | _ => none

/-! Order -/

def compareIntReal (i : Int) (x : Float) : Ordering :=
  match Binary.ofFloat x with
  | .nan => .gt
  | .infinite negative => if negative then .gt else .lt
  | .finite negative significand exponent =>
    let size : Int := significand
    let signedSize := if negative then -size else size
    let power : Int := Nat.pow 2 exponent.natAbs
    if 0 ≤ exponent then compare i (signedSize * power) else compare (i * power) signedSize

def compareReal (x y : Float) : Ordering := if x < y then .lt else if y < x then .gt else .eq

namespace Datum

def ofFloat (x : Float) : Datum := if x.isNaN then null else real x

def isNull : Datum → Bool
  | null => true
  | _ => false

def rank : Datum → Nat
  | null => 0
  | integer _ | real _ => 1
  | text _ => 2
  | blob _ => 3

def compare : Datum → Datum → Ordering
  | integer i, integer j => Ord.compare i.toInt j.toInt
  | integer i, real y => compareIntReal i.toInt y
  | real x, integer j => (compareIntReal j.toInt x).swap
  | real x, real y => compareReal x y
  | text s, text t => Ord.compare (s.map Char.toNat) (t.map Char.toNat)
  | blob a, blob b => Ord.compare (a.map UInt8.toNat) (b.map UInt8.toNat)
  | a, b => Ord.compare a.rank b.rank

/-! Conversions -/

def numberOfText : Datum → Datum
  | text s => (number? s).getD (text s)
  | d => d

def wholeIfReal : Datum → Datum
  | real x => ((wholeOfReal? x).map integer).getD (real x)
  | d => d

def realIfWhole : Datum → Datum
  | integer i => real (Float.ofInt i.toInt)
  | d => d

def textOfNumber : Datum → Datum
  | integer i => text (Text.ofInt i.toInt)
  | real x => text (realText x)
  | d => d

def store (affinity : Affinity) (d : Datum) : Datum :=
  match affinity with
  | .blob => d
  | .text => d.textOfNumber
  | .numeric | .integer => d.numberOfText.wholeIfReal
  | .real => d.numberOfText.wholeIfReal.realIfWhole

def forComparison (affinity : Affinity) (d : Datum) : Datum :=
  if affinity.isNumeric then d.numberOfText
  else if affinity = .text then d.textOfNumber
  else d

def toNumber : Datum → Datum
  | null => null
  | integer i => integer i
  | real x => real x
  | text s => ((readNumber s).map Prod.fst).getD (integer 0)
  | blob b => ((readNumber (Text.ofUtf8Lossy b)).map Prod.fst).getD (integer 0)

-- The text of a value; the bytes of a value without one are taken for text.
def toText : Datum → Datum
  | null => null
  | blob b => text (Text.ofUtf8Lossy b)
  | d => d.textOfNumber

def cast (affinity : Affinity) (d : Datum) : Datum :=
  match affinity, d with
  | _, null => null
  | .text, d => d.toText
  | .blob, d =>
    match d.toText with
    | text s => blob s.toUtf8
    | d => d
  | .numeric, d => d.toNumber.wholeIfReal
  | .integer, d =>
    match d.toNumber with
    | real x => integer x.toInt64
    | d => d
  | .real, d => d.toNumber.realIfWhole

def truth? (d : Datum) : Option Bool :=
  match d.toNumber with
  | null => none
  | integer i => some (i != 0)
  | real x => some (x != 0)
  | _ => some false

def ofTruth : Option Bool → Datum
  | none => null
  | some b => integer (if b then 1 else 0)

def toCell : Datum → Cell
  | null => .null
  | integer i => .int i
  | real x => .float x
  | text s => .text s
  | blob b => .bytes b

end Datum

end SqlDialect.Engine

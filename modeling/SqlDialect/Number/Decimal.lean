import SqlDialect.Text.Basic

/-! Decimal numbers: a whole number times a power of ten, and the ways one is written out. -/

set_option autoImplicit false

namespace SqlDialect

structure Decimal where
  digits : Nat
  exponent : Int
  deriving DecidableEq

namespace Decimal

/-- The decimal digits, and the place of the point counted from before the first of them. -/
def digitsAndPoint (d : Decimal) : Text × Int :=
  let digits := Text.ofNat d.digits
  (digits, digits.length + d.exponent)

def positional (d : Decimal) : Text :=
  let (digits, point) := d.digitsAndPoint
  if digits.length ≤ point then digits ++ List.replicate d.exponent.toNat '0'
  else if point ≤ 0 then "0." ++ List.replicate point.natAbs '0' ++ digits
  else digits.take point.toNat ++ '.' :: digits.drop point.toNat

def pointed : Text → Text
  | [] => []
  | [d] => [d]
  | d :: r => d :: '.' :: r

def signedExponent (e : Int) : Text := (if e < 0 then '-' else '+') :: Text.ofNat e.natAbs

def strip (d : Decimal) : Decimal :=
  if h : d.digits = 0 ∨ d.digits % 10 ≠ 0 then d
  else strip ⟨d.digits / 10, d.exponent + 1⟩
termination_by d.digits
decreasing_by omega

-- The number nearest to a decimal that 64 bits of floating point hold. Beyond 310 digits before
-- the point it is infinite, and from 330 zeros after it, zero.
def toFloat (d : Decimal) : Float :=
  let size : Int := (Text.ofNat d.digits).length + d.exponent
  if d.digits = 0 ∨ size < -330 then 0
  else if 310 < size then Float.ofBits 0x7FF0000000000000
  else Float.ofScientific d.digits (d.exponent < 0) d.exponent.natAbs

def readExponent : Text → Option (Int × Text)
  | c :: r =>
    if c = 'e' ∨ c = 'E' then
      let (negative, r) :=
        match r with
        | '-' :: r => (true, r)
        | '+' :: r => (false, r)
        | r => (false, r)
      let digits := r.takeWhile Char.isDigit
      if digits = [] then none
      else
        let value : Int := Text.digitsValue digits
        some (if negative then -value else value, r.dropWhile Char.isDigit)
    else none
  | [] => none

def read? (s : Text) : Option (Decimal × Text) :=
  let whole := s.takeWhile Char.isDigit
  let afterWhole := s.dropWhile Char.isDigit
  let (fraction, r) :=
    match afterWhole with
    | '.' :: r => (r.takeWhile Char.isDigit, r.dropWhile Char.isDigit)
    | r => ([], r)
  if whole = [] ∧ fraction = [] then none
  else
    let digits := Text.digitsValue (whole ++ fraction)
    let (shift, r) := (readExponent r).getD (0, r)
    some (⟨digits, shift - fraction.length⟩, r)

end Decimal

def readSign : Text → Bool × Text
  | '-' :: r => (true, r)
  | '+' :: r => (false, r)
  | r => (false, r)

def floatOfText? (s : Text) : Option Float :=
  let (negative, unsigned) := readSign s
  let magnitude? : Option Float :=
    if unsigned.agrees "inf" ∨ unsigned.agrees "infinity" then
      some (Float.ofBits 0x7FF0000000000000)
    else if unsigned.agrees "nan" then some (Float.ofBits 0x7FF8000000000000)
    else
      match Decimal.read? unsigned with
      | some (d, []) => some d.toFloat
      | _ => none
  magnitude?.map fun x => if negative then -x else x

end SqlDialect

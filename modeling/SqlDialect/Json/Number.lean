import SqlDialect.Json.Basic

/-! Numbers at the head of a JSON text.

A number has a significand of at most 64 bits: the digits that no longer fit count as powers
of ten before the point and are dropped after it. The significand is rounded to floating
point first and then multiplied or divided by one power of ten.
-/

set_option autoImplicit false

namespace SqlDialect.Json

inductive Problem where
  | ended
  | mistyped
  | malformed
  deriving DecidableEq

abbrev Reading (α : Type) := Except Problem (α × Text)

/-- The significand that digits make, and the digits that no longer fit 64 bits. -/
def significand : Nat → Text → Nat × Text
  | n, [] => (n, [])
  | n, d :: r =>
    let m := 10 * n + (d.toNat - '0'.toNat)
    if UInt64.size ≤ m then (n, d :: r) else significand m r

def powerOfTen (n : Nat) : Float := Float.ofScientific 1 false n

-- A significand times a power of ten, unless it is too large. One power of ten reaches `10 ^ 308`;
-- two divisions by that leave nothing of a significand of 64 bits.
def scale? (x : Float) (exponent : Int) : Option Float :=
  if exponent.natAbs ≤ 308 then
    if 0 ≤ exponent then
      let product := x * powerOfTen exponent.natAbs
      if product.isInf then none else some product
    else some (x / powerOfTen exponent.natAbs)
  else if x == 0 then some x
  else if 0 ≤ exponent then none
  else if -616 ≤ exponent then some (x / powerOfTen 308 / powerOfTen (exponent.natAbs - 308))
  else some 0

def floatOfParts (negative : Bool) (n : Nat) (exponent : Int) (r : Text) : Reading JsonNumber :=
  match scale? (Float.ofScientific n false 0) exponent with
  | some x => .ok (.float (if negative then -x else x), r)
  | none => .error .malformed

def readExponent (negative : Bool) (n : Nat) (exponent : Int) (s : Text) : Reading JsonNumber :=
  let (down, s) := readSign s
  match s with
  | [] => .error .ended
  | d :: _ =>
    if d.isDigit then
      let size := Text.digitsValue (s.takeWhile Char.isDigit)
      let r := s.dropWhile Char.isDigit
      if 2147483647 < size then
        if n ≠ 0 ∧ !down then .error .malformed
        else .ok (.float (if negative then -0.0 else 0.0), r)
      else floatOfParts negative n (if down then exponent - size else exponent + size) r
    else .error .malformed

def afterDigits (negative : Bool) (n : Nat) (exponent : Int) (s : Text) : Reading JsonNumber :=
  match s with
  | 'e' :: r | 'E' :: r => readExponent negative n exponent r
  | r => floatOfParts negative n exponent r

def readFraction (negative : Bool) (n : Nat) (exponent : Int) (s : Text) : Reading JsonNumber :=
  let digits := s.takeWhile Char.isDigit
  let r := s.dropWhile Char.isDigit
  if digits = [] then .error (if r = [] then .ended else .malformed)
  else
    let (n, dropped) := significand n digits
    let kept := digits.length - dropped.length
    afterDigits negative n (exponent - kept) r

-- A whole number, which is floating-point if 64 bits do not hold it; so is minus zero.
def wholeNumber (negative : Bool) (n : Nat) : JsonNumber :=
  if negative then
    if n = 0 ∨ UInt64.size < 2 * n then .float (-(Float.ofScientific n false 0)) else .whole (-(n : Int))
  else .whole n

def readUnsigned (negative : Bool) (s : Text) : Reading JsonNumber :=
  let digits := s.takeWhile Char.isDigit
  let r := s.dropWhile Char.isDigit
  match digits with
  | [] => .error (if r = [] then .ended else .malformed)
  | '0' :: _ :: _ => .error .malformed
  | _ =>
    let (n, dropped) := significand 0 digits
    match r with
    | '.' :: r => readFraction negative n dropped.length r
    | 'e' :: r | 'E' :: r => readExponent negative n dropped.length r
    | r =>
      if dropped = [] then .ok (wholeNumber negative n, r)
      else floatOfParts negative n dropped.length r

def readNumber (s : Text) : Reading JsonNumber :=
  match s with
  | '-' :: r => readUnsigned true r
  | r => readUnsigned false r

end SqlDialect.Json

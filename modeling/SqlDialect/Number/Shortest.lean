import SqlDialect.Number.Decimal

/-! Floating-point numbers as decimals.

A finite number is a significand times a power of two. The reals that round to it form an
interval around it; its shortest decimal is the one with the fewest digits in that interval,
and of those the nearest.
-/

set_option autoImplicit false

namespace SqlDialect

inductive Binary where
  | nan
  | infinite (negative : Bool)
  /-- The number `significand · 2 ^ exponent`, or its opposite. -/
  | finite (negative : Bool) (significand : Nat) (exponent : Int)

namespace Binary

/-- The significand that has one bit before the 52 of its fraction, and none in it. -/
def leastSignificand : Nat := 0x10000000000000

def ofFloat (x : Float) : Binary :=
  let bits := x.toBits.toNat
  let fraction := bits % leastSignificand
  let exponent : Nat := bits / leastSignificand % 2048
  let negative := bits / leastSignificand / 2048 == 1
  if exponent = 2047 then if fraction = 0 then infinite negative else nan
  else if exponent = 0 then finite negative fraction (-1074)
  else finite negative (leastSignificand + fraction) ((exponent : Int) - 1075)

/-- Whether the gap below the number is half the gap above it. -/
def narrowBelow (significand : Nat) (exponent : Int) : Bool :=
  significand == leastSignificand && -1074 < exponent

def exponentAbove (significand : Nat) (exponent : Int) : Int :=
  (significand.log2 + 1 + exponent) * 30103 / 100000 + 1

-- The number and the step of the grid of multiples of `10 ^ p`, both scaled to whole numbers; the
-- number is four times what is scaled, so that its gaps can be halved twice.
def onGrid (significand : Nat) (exponent p : Int) : Nat × Nat × Nat :=
  let scale := Nat.pow 2 (exponent - 2).toNat * Nat.pow 10 (-p).toNat
  (4 * significand * scale, Nat.pow 10 p.toNat * Nat.pow 2 (2 - exponent).toNat, scale)

def nearestOnGrid? (significand : Nat) (exponent p : Int) : Option Nat :=
  let (number, unit, scale) := onGrid significand exponent p
  let low := number - (if narrowBelow significand exponent then 1 else 2) * scale
  let high := number + 2 * scale
  let rounds (k : Nat) : Bool :=
    k != 0 &&
      (if significand % 2 = 0 then low ≤ k * unit && k * unit ≤ high
       else low < k * unit && k * unit < high)
  let below := number / unit
  if rounds below ∧ rounds (below + 1) then
    some (if 2 * number < (2 * below + 1) * unit then below else below + 1)
  else if rounds below then some below
  else if rounds (below + 1) then some (below + 1)
  else none

-- The decimal with the fewest digits that rounds to `significand · 2 ^ exponent`. Seventeen digits
-- always suffice, so one of the grids tried has a hit.
def shortest (significand : Nat) (exponent : Int) : Decimal :=
  let above := exponentAbove significand exponent
  let grids : List Int := (List.range 24).map fun (i : Nat) => above - i
  let hit? := grids.findSome? fun p =>
    (nearestOnGrid? significand exponent p).map fun k => Decimal.mk k p
  hit?.getD ⟨0, 0⟩

/-- The nearest decimal of `places` significant digits, a half rounded up. -/
def significant (places : Nat) (significand : Nat) (exponent : Int) : Decimal :=
  let above := exponentAbove significand exponent
  let grids : List Int := (List.range 4).map fun (i : Nat) => above - i - places
  let hit? := grids.findSome? fun p =>
    let (number, unit, _) := onGrid significand exponent p
    let k := (2 * number + unit) / (2 * unit)
    if Nat.pow 10 (places - 1) ≤ k then some (Decimal.mk k p) else none
  (hit?.getD ⟨0, 0⟩).strip

end Binary

def signed (negative : Bool) (s : Text) : Text := if negative then '-' :: s else s

def floatText (x : Float) : Text :=
  match Binary.ofFloat x with
  | .nan => "NaN"
  | .infinite negative => signed negative "inf"
  | .finite negative 0 _ => signed negative "0"
  | .finite negative significand exponent =>
    signed negative (Binary.shortest significand exponent).positional

end SqlDialect

import SqlDialect.Cell.Basic
import SqlDialect.Text.Utf8
import SqlDialect.Wire.Bytes
import SqlDialect.Wire.Type

/-! The bytes that a cell is sent as. -/

set_option autoImplicit false

namespace SqlDialect.Wire

inductive Unsendable where
  | tooLarge
  | tooSmall
  | interval
  /-- An array for a type that is none. -/
  | notArray (type : Text)
  | momentTooLarge
  deriving DecidableEq

def Unsendable.message : Unsendable → Text
  | tooLarge => "number too large to fit in target type"
  | tooSmall => "number too small to fit in target type"
  | interval => "interval parameters are not supported"
  | notArray type => "container parameter bound to non-array type " ++ type
  | momentTooLarge => "value too large to transmit"

/-- The days from 1970-01-01 to 2000-01-01, from which the server counts. -/
def serverEpochDay : Int := 10957

def narrow (size : Nat) (i : Int) : Except Unsendable Bytes :=
  if capacity size ≤ 2 * i then .error .tooLarge
  else if 2 * i < -(capacity size : Int) then .error .tooSmall
  else .ok (signed size i)

def float64 (x : Float) : Bytes := unsigned 8 x.toBits.toNat

def float32 (x : Float) : Bytes := unsigned 4 x.toFloat32.toBits.toNat

/-- The microseconds from the start of 2000, the rest dropped. -/
def momentMicroseconds (m : Moment) : Int :=
  (m.epochNanosecond - serverEpochDay * 86400 * 1000000000).tdiv 1000

def encodeMoment (m : Moment) : Except Unsendable Bytes :=
  let i := momentMicroseconds m
  if capacity 8 ≤ 2 * i ∨ 2 * i < -(capacity 8 : Int) then .error .momentTooLarge
  else .ok (signed 8 i)

/-- The names of the types of labelled trees and queries, whose text has a version before it. -/
def versionedText : List Text := ["ltree", "lquery", "ltxtquery"]

-- The bytes of a cell for a type that is no array; none for a missing value.
def encodePlain (type : PlainType) : Cell → Except Unsendable (Option Bytes)
  | .null => .ok none
  | .bool b => .ok (some [if b then 1 else 0])
  | .int i =>
    if type.oid = PlainType.int2 then (narrow 2 i.toInt).map some
    else if type.oid = PlainType.int4 then (narrow 4 i.toInt).map some
    else if type.oid = PlainType.float8 then .ok (some (float64 (Float.ofInt i.toInt)))
    else .ok (some (signed 8 i.toInt))
  | .float x => .ok (some (if type.oid = PlainType.float4 then float32 x else float64 x))
  | .text s =>
    .ok (some (if versionedText.contains type.name then 1 :: s.toUtf8 else s.toUtf8))
  | .bytes b => .ok (some b)
  | .date d => .ok (some (signed 4 (d.dayNumber - serverEpochDay)))
  | .datetime m => (encodeMoment m).map some
  | .timestamp m => (encodeMoment m).map some
  | .interval _ => .error .interval
  | .json j =>
    .ok (some (if type.oid = PlainType.jsonb then 1 :: j.toText.toUtf8 else j.toText.toUtf8))
  | .array _ => .error (.notArray type.name)

/-- One element: its length and its bytes, or the length minus one for a missing value. -/
def encodeElement : Option Bytes → Bytes
  | none => signed 4 (-1)
  | some bytes => signed 4 bytes.length ++ bytes

def encodeArray (lowerBound : Nat) (element : PlainType) (items : List (Option Bytes)) : Bytes :=
  signed 4 1 ++ signed 4 (if items.any Option.isNone then 1 else 0) ++ unsigned 4 element.oid ++
    signed 4 items.length ++ signed 4 lowerBound ++ items.flatMap encodeElement

def lowerBound (type : ValueType) : Nat :=
  if type.oid = ValueType.int2vector ∨ type.oid = ValueType.oidvector then 0 else 1

-- The bytes of a cell for a type; none for a missing value.
def encode (type : ValueType) (cell : Cell) : Except Unsendable (Option Bytes) :=
  match cell with
  | .array items =>
    match type.element with
    | none => .error (.notArray type.name)
    | some element =>
      (items.mapM (encodePlain element)).map fun encoded =>
        some (encodeArray (lowerBound type) element encoded)
  | cell => encodePlain ⟨type.oid, type.name⟩ cell

end SqlDialect.Wire

import SqlDialect.Json.Reader
import SqlDialect.Wire.Encode

/-! The cell that bytes from a server stand for. -/

set_option autoImplicit false

namespace SqlDialect.Wire

def exactSigned? (size : Nat) (bytes : Bytes) : Option Int :=
  if bytes.length = size then some (signedValue bytes) else none

/-- A length of time: microseconds, days and months, of which each counts thirty days. -/
def decodeInterval (bytes : Bytes) : Option Interval :=
  if bytes.length = 16 then
    let microseconds := signedValue (bytes.take 8)
    let days := signedValue ((bytes.drop 8).take 4)
    let months := signedValue (bytes.drop 12)
    Interval.ofNanoseconds?
      (microseconds * 1000 + (days + 30 * months) * (86400 * 1000000000))
  else none

def decodeDate (bytes : Bytes) : Option Date :=
  (exactSigned? 4 bytes).bind fun days => Date.ofDayNumber? (days + serverEpochDay)

def decodeMoment (bytes : Bytes) : Option Moment :=
  (exactSigned? 8 bytes).bind fun microseconds =>
    Moment.ofEpochMicrosecond? (microseconds + serverEpochDay * 86400 * 1000000)

def decodeJson (bytes : Bytes) : Option Json :=
  (Text.ofUtf8? bytes).bind fun s => (Json.parse s).toOption

def readDimensions : Nat → Bytes → Option (List Nat × Bytes)
  | 0, bytes => some ([], bytes)
  | count + 1, bytes => do
    let (length, bytes) ← readSigned? 4 bytes
    if length < 0 then none
    else
      let (_, bytes) ← readSigned? 4 bytes
      let (lengths, bytes) ← readDimensions count bytes
      return (length.toNat :: lengths, bytes)

def readElements {α : Type} (item : Bytes → Option α) : Nat → Bytes → Option (List α)
  | 0, bytes => if bytes = [] then some [] else none
  | count + 1, bytes => do
    let (length, bytes) ← readSigned? 4 bytes
    if length < 0 then none
    else
      let (element, bytes) ← take? length.toNat bytes
      let first ← item element
      let rest ← readElements item count bytes
      return first :: rest

-- An array of at most one dimension; without one it has no elements.
def decodeArray {α : Type} (item : Bytes → Option α) (bytes : Bytes) : Option (List α) := do
  let (dimensions, bytes) ← readSigned? 4 bytes
  let (_, bytes) ← readSigned? 4 bytes
  let (_, bytes) ← take? 4 bytes
  if dimensions < 0 ∨ 1 < dimensions then none
  else
    let (lengths, bytes) ← readDimensions dimensions.toNat bytes
    readElements item (lengths.head?.getD 0) bytes

def decodeInt (size : Nat) (bytes : Bytes) : Option Cell :=
  (exactSigned? size bytes).map fun i => .int (Int64.ofInt i)

def decodeText (bytes : Bytes) : Option Cell := (Text.ofUtf8? bytes).map .text

inductive Form where
  | bool
  | int (size : Nat)
  | float4
  | float8
  | bytes
  | date
  | datetime
  | timestamp
  | interval
  | json
  | jsonb
  | ints (size : Nat)
  | texts
  | text
  | versionedText
  deriving DecidableEq

def forms : List (Nat × Form) := [
  (PlainType.bool, .bool), (PlainType.int2, .int 2), (PlainType.int4, .int 4),
  (PlainType.int8, .int 8), (PlainType.float4, .float4), (PlainType.float8, .float8),
  (PlainType.bytea, .bytes), (PlainType.date, .date), (PlainType.timestamp, .datetime),
  (PlainType.timestamptz, .timestamp), (PlainType.interval, .interval), (PlainType.json, .json),
  (PlainType.jsonb, .jsonb), (ValueType.int4Array, .ints 4), (ValueType.int8Array, .ints 8),
  (ValueType.textArray, .texts), (ValueType.varcharArray, .texts), (PlainType.text, .text),
  (PlainType.varchar, .text), (PlainType.bpchar, .text), (PlainType.name8, .text),
  (PlainType.unknown, .text)]

/-- The form that values of a type are read in, if they are: some texts are known by the names of
their types only. -/
def ValueType.form? (type : ValueType) : Option Form :=
  match forms.lookup type.oid with
  | some form => some form
  | none =>
    if type.name = "citext" then some .text
    else if versionedText.contains type.name then some .versionedText
    else none

/-- What follows the version, which is always one. -/
def afterVersion? : Bytes → Option Bytes
  | 1 :: rest => some rest
  | _ => none

def Form.decode? (bytes : Bytes) : Form → Option Cell
  | bool =>
    match bytes with
    | [b] => some (.bool (b != 0))
    | _ => none
  | int size => decodeInt size bytes
  | float4 =>
    if bytes.length = 4 then
      some (.float (Float32.ofBits (UInt32.ofNat (unsignedValue bytes))).toFloat)
    else none
  | float8 =>
    if bytes.length = 8 then some (.float (Float.ofBits (UInt64.ofNat (unsignedValue bytes))))
    else none
  | Form.bytes => some (.bytes bytes)
  | date => (decodeDate bytes).map .date
  | datetime => (decodeMoment bytes).map .datetime
  | timestamp => (decodeMoment bytes).map .timestamp
  | interval => (decodeInterval bytes).map .interval
  | json => (decodeJson bytes).map .json
  | jsonb => ((afterVersion? bytes).bind decodeJson).map .json
  | ints size => (decodeArray (decodeInt size) bytes).map .array
  | texts => (decodeArray decodeText bytes).map .array
  | text => decodeText bytes
  | versionedText => (afterVersion? bytes).bind decodeText

def decode? (type : ValueType) (bytes : Bytes) : Option Cell :=
  type.form?.bind (Form.decode? bytes)

def decode (type : ValueType) (bytes : Option Bytes) : Cell :=
  (bytes.bind (decode? type)).getD .null

end SqlDialect.Wire

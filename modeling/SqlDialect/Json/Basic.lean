import SqlDialect.Number.Shortest

/-! JSON values and their compact text. -/

set_option autoImplicit false

namespace SqlDialect

/-- A number of a document: a whole number of 64 bits, with sign or without, or floating-point. -/
inductive JsonNumber where
  | whole (i : Int)
  | float (x : Float)

inductive Json where
  | null
  | bool (b : Bool)
  | number (n : JsonNumber)
  | string (s : Text)
  | array (items : List Json)
  | object (entries : List (Text × Json))

namespace Json

def keyBefore : Text → Text → Bool
  | _, [] => false
  | [], _ :: _ => true
  | a :: r, b :: s => a < b || (a == b && keyBefore r s)

def insertEntry (key : Text) (value : Json) : List (Text × Json) → List (Text × Json)
  | [] => [(key, value)]
  | (k, v) :: rest =>
    if key = k then (key, value) :: rest
    else if keyBefore key k then (key, value) :: (k, v) :: rest
    else (k, v) :: insertEntry key value rest

/-- The object of the given entries: ordered by key, the last of equal keys counts. -/
def ofEntries (entries : List (Text × Json)) : Json :=
  object (entries.foldl (fun sorted (k, v) => insertEntry k v sorted) [])

-- Floating-point numbers keep a point or an exponent, so that they read back as such. From `1e16`
-- on and below `1e-5` they have an exponent.
def floatText (x : Float) : Text :=
  match Binary.ofFloat x with
  | .nan | .infinite _ => "null"
  | .finite negative 0 _ => signed negative "0.0"
  | .finite negative significand exponent =>
    let d := Binary.shortest significand exponent
    let (digits, point) := d.digitsAndPoint
    signed negative <|
      if -5 < point ∧ point ≤ 16 then
        if digits.length ≤ point then d.positional ++ ".0" else d.positional
      else Decimal.pointed digits ++ 'e' :: Decimal.signedExponent (point - 1)

def numberText : JsonNumber → Text
  | .whole i => Text.ofInt i
  | .float x => floatText x

def escapeChar (c : Char) : Text :=
  if c = '"' then "\\\""
  else if c = '\\' then "\\\\"
  else if c = '\n' then "\\n"
  else if c = '\r' then "\\r"
  else if c = '\t' then "\\t"
  else if c = '\x08' then "\\b"
  else if c = '\x0c' then "\\f"
  else if c.toNat < 0x20 then
    "\\u00" ++ [Text.hexDigit (c.toNat / 16), Text.hexDigit (c.toNat % 16)]
  else [c]

def stringText (s : Text) : Text := '"' :: s.flatMap escapeChar ++ ['"']

mutual

def toText : Json → Text
  | null => "null"
  | bool b => if b then "true" else "false"
  | number n => numberText n
  | string s => stringText s
  | array items => '[' :: itemsText items ++ [']']
  | object entries => '\x7b' :: entriesText entries ++ ['\x7d']

def itemsText : List Json → Text
  | [] => []
  | [item] => toText item
  | item :: rest => toText item ++ ',' :: itemsText rest

def entriesText : List (Text × Json) → Text
  | [] => []
  | [(key, value)] => stringText key ++ ':' :: toText value
  | (key, value) :: rest => stringText key ++ ':' :: toText value ++ ',' :: entriesText rest

end

end Json

end SqlDialect

import SqlDialect.Json.Number
import SqlDialect.Text.Utf8

/-! JSON documents read from text. The first problem from the left is the one reported. -/

set_option autoImplicit false

namespace SqlDialect.Json

def isGap (c : Char) : Bool := c == ' ' || c == '\n' || c == '\t' || c == '\r'

def dropGap (s : Text) : Text := s.dropWhile isGap

def escaped? (c : Char) : Option Char :=
  match c with
  | '"' => some '"'
  | '\\' => some '\\'
  | '/' => some '/'
  | 'b' => some '\x08'
  | 'f' => some '\x0c'
  | 'n' => some '\n'
  | 'r' => some '\r'
  | 't' => some '\t'
  | _ => none

def unit? (a b c d : Char) : Option Nat := do
  let a ← Text.hexDigitValue? a
  let b ← Text.hexDigitValue? b
  let c ← Text.hexDigitValue? c
  let d ← Text.hexDigitValue? d
  return ((a * 16 + b) * 16 + c) * 16 + d

def isHighSurrogate (u : Nat) : Bool := 0xD800 ≤ u && u ≤ 0xDBFF

def isLowSurrogate (u : Nat) : Bool := 0xDC00 ≤ u && u ≤ 0xDFFF

/-- Why fewer than four characters are no unit: the text ends, unless its bytes would do. -/
def shortUnit (s : Text) : Problem := if s.byteLength < 4 then .ended else .malformed

-- The rest of a string after its opening mark. Surrogates stand in pairs only.
def readString : Text → Reading Text
  | [] => .error .ended
  | '"' :: r => .ok ([], r)
  | '\\' :: 'u' :: a :: b :: c :: d :: r =>
    match unit? a b c d with
    | none => .error .malformed
    | some high =>
      if isLowSurrogate high then .error .malformed
      else if isHighSurrogate high then
        match r with
        | '\\' :: 'u' :: a :: b :: c :: d :: r =>
          match unit? a b c d with
          | none => .error .malformed
          | some low =>
            if isLowSurrogate low then
              (readString r).map fun (s, rest) =>
                (Char.ofNat (0x10000 + (high - 0xD800) * 0x400 + (low - 0xDC00)) :: s, rest)
            else .error .malformed
        | '\\' :: 'u' :: short => .error (shortUnit short)
        | [] | ['\\'] => .error .ended
        | _ => .error .malformed
      else (readString r).map fun (s, rest) => (Char.ofNat high :: s, rest)
  | '\\' :: 'u' :: short => .error (shortUnit short)
  | ['\\'] => .error .ended
  | '\\' :: e :: r =>
    match escaped? e with
    | some c => (readString r).map fun (s, rest) => (c :: s, rest)
    | none => .error .malformed
  | c :: r =>
    if c.toNat < 0x20 then .error .malformed
    else (readString r).map fun (s, rest) => (c :: s, rest)

def readWord : Text → Text → Except Problem Text
  | [], r => .ok r
  | _ :: _, [] => .error .ended
  | c :: word, d :: r => if c = d then readWord word r else .error .malformed

-- The items after an opening bracket, each read by `item`. Every item takes a character, so the
-- length of the text bounds their number.
def readItems {α : Type} (item : Text → Reading α) : Nat → Bool → Text → Reading (List α)
  | 0, _, _ => .error .malformed
  | fuel + 1, first, s =>
    match dropGap s with
    | [] => .error .ended
    | ']' :: r => .ok ([], r)
    | c :: r =>
      let next : Except Problem Text :=
        if first then .ok (c :: r)
        else if c = ',' then
          match dropGap r with
          | [] => .error .ended
          | ']' :: _ => .error .malformed
          | r => .ok r
        else .error .malformed
      next.bind fun s => do
        let (value, r) ← item s
        let (rest, r) ← readItems item fuel false r
        return (value :: rest, r)

def readEntries (item : Text → Reading Json) : Nat → Bool → Text → Reading (List (Text × Json))
  | 0, _, _ => .error .malformed
  | fuel + 1, first, s =>
    match dropGap s with
    | [] => .error .ended
    | '\x7d' :: r => .ok ([], r)
    | c :: r =>
      let next : Except Problem Text :=
        if first then .ok (c :: r)
        else if c = ',' then .ok (dropGap r)
        else .error .malformed
      next.bind fun s =>
        match s with
        | [] => .error .ended
        | '"' :: r => do
          let (key, r) ← readString r
          match dropGap r with
          | [] => .error .ended
          | ':' :: r =>
            let (value, r) ← item r
            let (rest, r) ← readEntries item fuel false r
            return ((key, value) :: rest, r)
          | _ => .error .malformed
        | _ => .error .malformed

-- A value after white space. At most `depth` brackets may be open, less one.
def readValue : Nat → Text → Reading Json
  | 0, _ => .error .malformed
  | depth + 1, s =>
    match dropGap s with
    | [] => .error .ended
    | 'n' :: r => (readWord "ull" r).map fun r => (null, r)
    | 't' :: r => (readWord "rue" r).map fun r => (bool true, r)
    | 'f' :: r => (readWord "alse" r).map fun r => (bool false, r)
    | '"' :: r => (readString r).map fun (s, r) => (string s, r)
    | '[' :: r =>
      if depth = 0 then .error .malformed
      else (readItems (readValue depth) (r.length + 1) true r).map fun (items, r) => (array items, r)
    | '\x7b' :: r =>
      if depth = 0 then .error .malformed
      else
        (readEntries (readValue depth) (r.length + 1) true r).map fun (entries, r) =>
          (ofEntries entries, r)
    | c :: r =>
      if c = '-' ∨ c.isDigit then (readNumber (c :: r)).map fun (n, r) => (number n, r)
      else .error .malformed

def depthLimit : Nat := 128

def finish {α : Type} (reading : Reading α) : Except Problem α :=
  reading.bind fun (value, r) => if dropGap r = [] then .ok value else .error .malformed

def parse (s : Text) : Except Problem Json := finish (readValue depthLimit s)

-- A text that is one array, as the list of its items. A value of another type is read first,
-- unless it is an object.
def parseArray (s : Text) : Except Problem (List Json) :=
  match dropGap s with
  | '[' :: r => finish (readItems (readValue (depthLimit - 1)) (r.length + 1) true r)
  | '\x7b' :: _ => .error .mistyped
  | s => (readValue depthLimit s).bind fun _ => .error .mistyped

end SqlDialect.Json

import SqlDialect.Calendar.Reader
import SqlDialect.Cell.Basic

/-! Reading stored values by the declared type of their column.

A moment is stored as the seconds from the start of 1970 or as text, a date as text, a truth
value as a number and a length of time as seconds.
-/

set_option autoImplicit false

namespace SqlDialect

/-- The types whose values are stored as those of another type. -/
inductive Declared where
  | date
  | timestamp
  | interval
  | boolean
  deriving DecidableEq

/-- A declared type counts up to the first white space or parenthesis, in any case. -/
def Declared.ofText? (s : Text) : Option Declared :=
  let base : Text := s.takeWhile fun c => !(isBlank c || c == '(')
  if base.agrees "DATE" then some date
  else if base.agrees "TIMESTAMP" then some timestamp
  else if base.agrees "INTERVAL" then some interval
  else if base.agrees "BOOLEAN" then some boolean
  else none

namespace Cell

def integer? : Cell → Option Int64
  | int i => some i
  | text s => s.trim.int64?
  | _ => none

def moment? (stored : Cell) : Option Moment :=
  stored.integer?.bind fun i => Moment.ofEpochSecond? i.toInt

def decodeDate (stored : Cell) : Cell :=
  match stored.moment? with
  | some m => datetime m
  | none =>
    match stored with
    | text s => ((Calendar.date? s.trim).map date).getD stored
    | _ => stored

def decodeTimestamp (stored : Cell) : Cell :=
  match stored.moment? with
  | some m => datetime m
  | none =>
    match stored with
    | text s => ((Calendar.moment? s.trim).map datetime).getD stored
    | _ => stored

-- What is no number of seconds reads as zero. There is no answer for more seconds than a length of
-- time can have.
def decodeInterval (stored : Cell) : Option Cell :=
  (Interval.ofSeconds? ((stored.integer?.map Int64.toInt).getD 0)).map interval

def decodeBoolean (stored : Cell) : Cell :=
  match stored.integer? with
  | some i => bool (i != 0)
  | none => stored

def decode (type : Declared) (stored : Cell) : Option Cell :=
  match type with
  | .date => some stored.decodeDate
  | .timestamp => some stored.decodeTimestamp
  | .interval => stored.decodeInterval
  | .boolean => some stored.decodeBoolean

def decodeDeclared (type : Text) (stored : Cell) : Option Cell :=
  if stored.isNull then some stored
  else
    match Declared.ofText? type with
    | some type => stored.decode type
    | none => some stored

end Cell

end SqlDialect

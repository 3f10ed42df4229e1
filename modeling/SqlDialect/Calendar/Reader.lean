import SqlDialect.Calendar.Moment
import SqlDialect.Text.Blank

/-! Dates and moments read from text.

White space may stand before each number. A number has at least one digit; unless it is a year
with a sign, it ends at its usual width.
-/

set_option autoImplicit false

namespace SqlDialect.Calendar

def readNumber (width : Nat) (s : Text) : Option (Nat × Text) :=
  let digits := (s.dropBlank.takeWhile Char.isDigit).take width
  if digits = [] then none else some (Text.digitsValue digits, s.dropBlank.drop digits.length)

def readDigits (s : Text) : Option (Nat × Text) :=
  let digits := s.takeWhile Char.isDigit
  if digits = [] then none else some (Text.digitsValue digits, s.dropWhile Char.isDigit)

/-- A year at the head of a text: with a sign it takes all the digits, else four. -/
def readYear (s : Text) : Option (Int × Text) :=
  match s.dropBlank with
  | '-' :: r => (readDigits r).map fun (n, rest) => (-(n : Int), rest)
  | '+' :: r => (readDigits r).map fun (n, rest) => ((n : Int), rest)
  | r => (readNumber 4 r).map fun (n, rest) => ((n : Int), rest)

def readMark (mark : Char) : Text → Option Text
  | [] => none
  | c :: r => if c = mark then some r else none

def readDate (s : Text) : Option ((Int × Nat × Nat) × Text) := do
  let (year, s) ← readYear s
  let s ← readMark '-' s
  let (month, s) ← readNumber 2 s
  let s ← readMark '-' s
  let (day, s) ← readNumber 2 s
  return ((year, month, day), s)

def timeOfClock? (hour minute second : Nat) : Option TimeOfDay :=
  if second = 60 then TimeOfDay.ofFields? hour minute 59 1000000000
  else TimeOfDay.ofFields? hour minute second 0

def date? (s : Text) : Option Date := do
  let ((year, month, day), s) ← readDate s
  if s = [] then Date.ofFields? year month day else none

def moment? (s : Text) : Option Moment := do
  let ((year, month, day), s) ← readDate s
  let (hour, s) ← readNumber 2 s
  let s ← readMark ':' s
  let (minute, s) ← readNumber 2 s
  let s ← readMark ':' s
  let (second, s) ← readNumber 2 s
  if s = [] then
    let date ← Date.ofFields? year month day
    let time ← timeOfClock? hour minute second
    return ⟨date, time⟩
  else none

end SqlDialect.Calendar

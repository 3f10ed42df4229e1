import SqlDialect.Calendar.Date

/-! Moments: a date with a time of day, without a time zone. -/

set_option autoImplicit false

namespace SqlDialect

-- A time of day. The nanoseconds of the last second of a minute may run to two seconds: that is a
-- leap second.
structure TimeOfDay where
  hour : Nat
  minute : Nat
  second : Nat
  nanosecond : Nat
  hour_lt : hour < 24
  minute_lt : minute < 60
  second_lt : second < 60
  nanosecond_range : nanosecond < 1000000000 ∨ (second = 59 ∧ nanosecond < 2000000000)
  deriving DecidableEq

namespace TimeOfDay

def ofFields? (hour minute second nanosecond : Nat) : Option TimeOfDay :=
  if h : hour < 24 ∧ minute < 60 ∧ second < 60 ∧
      (nanosecond < 1000000000 ∨ (second = 59 ∧ nanosecond < 2000000000)) then
    some ⟨hour, minute, second, nanosecond, h.1, h.2.1, h.2.2.1, h.2.2.2⟩
  else none

theorem ofFields?_fields (t : TimeOfDay) :
    ofFields? t.hour t.minute t.second t.nanosecond = some t := by
  simp [ofFields?, t.hour_lt, t.minute_lt, t.second_lt, t.nanosecond_range]

def secondOfDay (t : TimeOfDay) : Nat := t.hour * 3600 + t.minute * 60 + t.second

def ofSecondOfDay (second nanosecond : Nat) (second_lt : second < 86400)
    (nanosecond_lt : nanosecond < 1000000000) : TimeOfDay :=
  ⟨second / 3600, second / 60 % 60, second % 60, nanosecond, by omega, by omega, by omega,
    .inl nanosecond_lt⟩

/-- The fraction of a second by the fewest of three, six or nine digits that are exact. -/
def fractionText (nanosecond : Nat) : Text :=
  if nanosecond = 0 then []
  else if nanosecond % 1000000 = 0 then
    '.' :: Text.padLeft '0' 3 (Text.ofNat (nanosecond / 1000000))
  else if nanosecond % 1000 = 0 then
    '.' :: Text.padLeft '0' 6 (Text.ofNat (nanosecond / 1000))
  else '.' :: Text.padLeft '0' 9 (Text.ofNat nanosecond)

/-- A leap second is written as second 60. -/
def toText (t : TimeOfDay) : Text :=
  let (second, nanosecond) :=
    if t.nanosecond < 1000000000 then (t.second, t.nanosecond)
    else (t.second + 1, t.nanosecond - 1000000000)
  Date.twoDigits t.hour ++ ':' :: Date.twoDigits t.minute ++ ':' :: Date.twoDigits second ++
    fractionText nanosecond

end TimeOfDay

structure Moment where
  date : Date
  time : TimeOfDay
  deriving DecidableEq

namespace Moment

def ofFields? (year : Int) (month day hour minute second nanosecond : Nat) : Option Moment := do
  let date ← Date.ofFields? year month day
  let time ← TimeOfDay.ofFields? hour minute second nanosecond
  return ⟨date, time⟩

def epochSecond (m : Moment) : Int := m.date.dayNumber * 86400 + m.time.secondOfDay

/-- The moment so many seconds and nanoseconds after the start of 1970, if its year is in
range. -/
def ofEpoch? (second : Int) (nanosecond : Nat) (nanosecond_lt : nanosecond < 1000000000) :
    Option Moment :=
  (Date.ofDayNumber? (second / 86400)).map fun date =>
    ⟨date, .ofSecondOfDay (second % 86400).toNat nanosecond (by omega) nanosecond_lt⟩

def ofEpochSecond? (second : Int) : Option Moment := ofEpoch? second 0 (by decide)

def ofEpochMicrosecond? (microsecond : Int) : Option Moment :=
  ofEpoch? (microsecond / 1000000) ((microsecond % 1000000).toNat * 1000) (by omega)

-- The nanoseconds from the start of 1970; those of a leap second count on.
def epochNanosecond (m : Moment) : Int := m.epochSecond * 1000000000 + m.time.nanosecond

def toText (m : Moment) : Text := m.date.toText ++ ' ' :: m.time.toText

end Moment

end SqlDialect

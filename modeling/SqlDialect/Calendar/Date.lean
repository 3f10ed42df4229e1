import SqlDialect.Text.Basic

/-! Dates of the Gregorian calendar, carried back before its introduction; the year before
year 1 is year 0. -/

set_option autoImplicit false

namespace SqlDialect

def isLeapYear (year : Int) : Bool :=
  year % 4 == 0 && (year % 100 != 0 || year % 400 == 0)

def daysInMonth (year : Int) (month : Nat) : Nat :=
  if month = 2 then if isLeapYear year then 29 else 28
  else if month = 4 ∨ month = 6 ∨ month = 9 ∨ month = 11 then 30
  else 31

structure Date where
  year : Int
  month : Nat
  day : Nat
  year_range : -262143 ≤ year ∧ year ≤ 262142
  month_range : 1 ≤ month ∧ month ≤ 12
  day_range : 1 ≤ day ∧ day ≤ daysInMonth year month
  deriving DecidableEq

namespace Date

def ofFields? (year : Int) (month day : Nat) : Option Date :=
  if h : (-262143 ≤ year ∧ year ≤ 262142) ∧ (1 ≤ month ∧ month ≤ 12) ∧
      (1 ≤ day ∧ day ≤ daysInMonth year month) then
    some ⟨year, month, day, h.1, h.2.1, h.2.2⟩
  else none

theorem ofFields?_fields (d : Date) : ofFields? d.year d.month d.day = some d := by
  simp [ofFields?, d.year_range, d.month_range, d.day_range]

def daysBeforeYear (year : Int) : Int :=
  365 * year + (year + 3) / 4 - (year + 99) / 100 + (year + 399) / 400

def daysBeforeMonth (year : Int) (month : Nat) : Nat :=
  (List.range (month - 1)).foldl (fun days i => days + daysInMonth year (i + 1)) 0

/-- The day number of 1970-01-01 counted from the first day of year 0. -/
def epochDay : Int := 719528

def dayNumber (d : Date) : Int :=
  daysBeforeYear d.year + daysBeforeMonth d.year d.month + (d.day - 1) - epochDay

-- The year that holds a day counted from the first day of year 0. Four hundred years have 146097
-- days, so the estimate is off by one year at most.
def yearOfDay (n : Int) : Int :=
  let estimate := n * 400 / 146097
  if daysBeforeYear (estimate + 1) ≤ n then estimate + 1
  else if n < daysBeforeYear estimate then estimate - 1
  else estimate

/-- The month and the day that lie `n` days after the first of the given months. -/
def monthAndDay (year : Int) : List Nat → Nat → Nat × Nat
  | [], n => (13, n + 1)
  | month :: later, n =>
    if n < daysInMonth year month then (month, n + 1)
    else monthAndDay year later (n - daysInMonth year month)

def ofDayNumber? (n : Int) : Option Date :=
  let day := n + epochDay
  let year := yearOfDay day
  let (month, dayOfMonth) :=
    monthAndDay year ((List.range 12).map (· + 1)) (day - daysBeforeYear year).toNat
  ofFields? year month dayOfMonth

-- A year has four digits at least; outside 0 to 9999 it has a sign.
def yearText (year : Int) : Text :=
  let digits := Text.padLeft '0' 4 (Text.ofNat year.natAbs)
  if year < 0 then '-' :: digits
  else if 9999 < year then '+' :: digits
  else digits

def twoDigits (n : Nat) : Text := Text.padLeft '0' 2 (Text.ofNat n)

def toText (d : Date) : Text :=
  yearText d.year ++ '-' :: twoDigits d.month ++ '-' :: twoDigits d.day

end Date

end SqlDialect

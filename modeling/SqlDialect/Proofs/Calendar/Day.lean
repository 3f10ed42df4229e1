import SqlDialect.Calendar.Moment

/-! Days, dates and moments.

Every day falls into one year and one month, whatever its number. So a day number is that of at
most one date, and reading it finds this date.
-/

set_option autoImplicit false

namespace SqlDialect

theorem isLeapYear_iff {year : Int} :
    isLeapYear year = true ↔ year % 4 = 0 ∧ (year % 100 ≠ 0 ∨ year % 400 = 0) := by
  simp [isLeapYear]

theorem daysInMonth_le (year : Int) (month : Nat) : daysInMonth year month ≤ 31 := by
  unfold daysInMonth
  grind

namespace Date

/-! ## Years -/

theorem daysBeforeYear_succ (year : Int) :
    daysBeforeYear (year + 1) = daysBeforeYear year + if isLeapYear year then 366 else 365 := by
  unfold daysBeforeYear
  split
  next leap =>
    rw [isLeapYear_iff] at leap
    omega
  next common =>
    rw [isLeapYear_iff] at common
    omega

theorem daysBeforeYear_mono {first later : Int} (le : first ≤ later) :
    daysBeforeYear first ≤ daysBeforeYear later := by
  unfold daysBeforeYear
  omega

/-- The year of a day is the one that begins no later and ends after it. -/
theorem yearOfDay_spec (n : Int) :
    daysBeforeYear (yearOfDay n) ≤ n ∧ n < daysBeforeYear (yearOfDay n + 1) := by
  -- the estimate is off by one year at most
  have after : daysBeforeYear (n * 400 / 146097 - 1) ≤ n := by
    unfold daysBeforeYear
    omega
  have before : n < daysBeforeYear (n * 400 / 146097 + 2) := by
    unfold daysBeforeYear
    omega
  unfold yearOfDay
  generalize n * 400 / 146097 = estimate at after before ⊢
  dsimp only
  split
  next late => exact ⟨late, by rwa [Int.add_assoc]⟩
  next notLate =>
    split
    next early => exact ⟨after, by rwa [Int.sub_add_cancel]⟩
    next notEarly => exact ⟨Int.not_lt.1 notEarly, Int.not_le.1 notLate⟩

theorem yearOfDay_eq {year n : Int} (began : daysBeforeYear year ≤ n)
    (ended : n < daysBeforeYear (year + 1)) : yearOfDay n = year := by
  obtain ⟨began', ended'⟩ := yearOfDay_spec n
  rcases Int.lt_trichotomy (yearOfDay n) year with less | same | greater
  · have := daysBeforeYear_mono (Int.add_one_le_of_lt less)
    omega
  · exact same
  · have := daysBeforeYear_mono (Int.add_one_le_of_lt greater)
    omega

/-! ## Months -/

variable {year : Int}

theorem daysBeforeMonth_succ (year : Int) (month : Nat) :
    daysBeforeMonth year (month + 1 + 1) =
      daysBeforeMonth year (month + 1) + daysInMonth year (month + 1) := by
  simp [daysBeforeMonth, List.range_succ]

theorem daysBeforeMonth_mono (year : Int) {first later : Nat} (le : first ≤ later) :
    daysBeforeMonth year (first + 1) ≤ daysBeforeMonth year (later + 1) := by
  induction le with
  | refl => exact Nat.le_refl _
  | step _ ih =>
    rw [daysBeforeMonth_succ]
    exact Nat.le_add_right_of_le ih

theorem daysBeforeMonth_end (year : Int) :
    (daysBeforeMonth year 13 : Int) = if isLeapYear year then 366 else 365 := by
  cases leap : isLeapYear year <;> simp [daysBeforeMonth, List.range_succ, daysInMonth, leap]

/-- Where the days of a month and of those before it reach: the month and the day found for `n` days
after the first of a month are that far from it. -/
theorem monthAndDay_spec (year : Int) (first count n : Nat)
    (ends : daysBeforeMonth year (first + 1) + n < daysBeforeMonth year (first + count + 1)) :
    ∃ m day, monthAndDay year (List.range' (first + 1) count) n = (m + 1, day + 1) ∧
      m < first + count ∧ day < daysInMonth year (m + 1) ∧
      daysBeforeMonth year (m + 1) + day = daysBeforeMonth year (first + 1) + n := by
  induction count generalizing first n with
  | zero => exact absurd ends (by simp)
  | succ count ih =>
    have next := daysBeforeMonth_succ year first
    rw [List.range'_succ]
    unfold monthAndDay
    split
    next inside => exact ⟨first, n, rfl, by omega, inside, rfl⟩
    next outside =>
      have reached : first + 1 + count = first + (count + 1) := by omega
      obtain ⟨m, day, found, before, fits, same⟩ :=
        ih (first + 1) (n - daysInMonth year (first + 1)) (by rw [reached, next]; omega)
      exact ⟨m, day, found, by omega, fits, by omega⟩

theorem day_lt_later_month {m later day : Nat} (fits : day < daysInMonth year (m + 1))
    (less : m < later) :
    daysBeforeMonth year (m + 1) + day < daysBeforeMonth year (later + 1) := by
  have ends := daysBeforeMonth_succ year m
  have later := daysBeforeMonth_mono year (Nat.add_one_le_of_lt less)
  omega

theorem month_unique {m m' day day' : Nat} (fits : day < daysInMonth year (m + 1))
    (fits' : day' < daysInMonth year (m' + 1))
    (same : daysBeforeMonth year (m + 1) + day = daysBeforeMonth year (m' + 1) + day') :
    m = m' ∧ day = day' := by
  rcases Nat.lt_trichotomy m m' with less | rfl | greater
  · have := day_lt_later_month fits less
    omega
  · exact ⟨rfl, Nat.add_left_cancel same⟩
  · have := day_lt_later_month fits' greater
    omega

theorem day_lt_later_year {m day : Nat} (listed : m < 12) (fits : day < daysInMonth year (m + 1)) :
    daysBeforeYear year + (daysBeforeMonth year (m + 1) + day : Nat) <
      daysBeforeYear (year + 1) := by
  have inside : _ < daysBeforeMonth year 13 := day_lt_later_month fits listed
  have twelve := daysBeforeMonth_end year
  rw [daysBeforeYear_succ]
  omega

/-! ## Dates -/

theorem exists_fields (n : Int) :
    ∃ year m day, ofDayNumber? n = ofFields? year (m + 1) (day + 1) ∧ m < 12 ∧
      day < daysInMonth year (m + 1) ∧
      daysBeforeYear year + (daysBeforeMonth year (m + 1) + day : Nat) - epochDay = n := by
  obtain ⟨began, ended⟩ := yearOfDay_spec (n + epochDay)
  have twelve := daysBeforeMonth_end (yearOfDay (n + epochDay))
  have none : daysBeforeMonth (yearOfDay (n + epochDay)) (0 + 1) = 0 := rfl
  rw [daysBeforeYear_succ, ← twelve] at ended
  obtain ⟨m, day, found, listed, fits, same⟩ :=
    monthAndDay_spec (yearOfDay (n + epochDay)) 0 12
      (n + epochDay - daysBeforeYear (yearOfDay (n + epochDay))).toNat (by
        rw [none]
        show _ < daysBeforeMonth _ 13
        omega)
  refine ⟨yearOfDay (n + epochDay), m, day, ?_, by omega, fits, ?_⟩
  · have months : (List.range 12).map (· + 1) = List.range' 1 12 := by decide
    simp only [ofDayNumber?, months, found]
  · rw [none] at same
    omega

theorem fields_unique {year' : Int} {m m' day day' : Nat} (listed : m < 12) (listed' : m' < 12)
    (fits : day < daysInMonth year (m + 1)) (fits' : day' < daysInMonth year' (m' + 1))
    (same : daysBeforeYear year + (daysBeforeMonth year (m + 1) + day : Nat) =
      daysBeforeYear year' + (daysBeforeMonth year' (m' + 1) + day' : Nat)) :
    year = year' ∧ m = m' ∧ day = day' := by
  have inside := day_lt_later_year listed fits
  have inside' := day_lt_later_year listed' fits'
  obtain rfl : year = year' := by
    rw [← yearOfDay_eq (by omega) inside, same, yearOfDay_eq (by omega) inside']
  obtain ⟨rfl, rfl⟩ := month_unique fits fits' (by omega)
  exact ⟨rfl, rfl, rfl⟩

theorem ofFields?_eq_some_iff {month day : Nat} {d : Date} :
    ofFields? year month day = some d ↔ d.year = year ∧ d.month = month ∧ d.day = day := by
  constructor
  · intro made
    unfold ofFields? at made
    split at made
    · cases made
      exact ⟨rfl, rfl, rfl⟩
    · cases made
  · rintro ⟨rfl, rfl, rfl⟩
    exact ofFields?_fields d

theorem exists_month_day (d : Date) :
    ∃ m day, d.month = m + 1 ∧ d.day = day + 1 ∧ m < 12 ∧ day < daysInMonth d.year (m + 1) ∧
      d.dayNumber =
        daysBeforeYear d.year + (daysBeforeMonth d.year (m + 1) + day : Nat) - epochDay := by
  obtain ⟨⟨first, last⟩, ⟨begins, ends⟩⟩ := d.month_range, d.day_range
  obtain ⟨m, month⟩ := Nat.exists_eq_add_of_le' first
  obtain ⟨day, days⟩ := Nat.exists_eq_add_of_le' begins
  rw [month, days] at ends
  refine ⟨m, day, month, days, by omega, ends, ?_⟩
  unfold dayNumber
  rw [month, days]
  omega

theorem ofDayNumber?_eq_some_iff {n : Int} {d : Date} :
    ofDayNumber? n = some d ↔ d.dayNumber = n := by
  obtain ⟨year, m, day, found, listed, fits, number⟩ := exists_fields n
  obtain ⟨m', day', month', days', listed', fits', number'⟩ := d.exists_month_day
  rw [found, ofFields?_eq_some_iff, month', days', number', ← number]
  constructor
  · rintro ⟨rfl, months, days⟩
    rw [Nat.add_right_cancel months, Nat.add_right_cancel days]
  · intro same
    obtain ⟨years, rfl, rfl⟩ := fields_unique listed' listed fits' fits (by omega)
    exact ⟨years, rfl, rfl⟩

/-- The day numbers of the first and the last date. -/
theorem dayNumber_range (d : Date) : -96465292 ≤ d.dayNumber ∧ d.dayNumber ≤ 95026236 := by
  obtain ⟨m, day, -, -, listed, fits, number⟩ := d.exists_month_day
  have inside := day_lt_later_year listed fits
  have lower := daysBeforeYear_mono d.year_range.1
  have upper := daysBeforeYear_mono (Int.add_le_add_right d.year_range.2 1)
  rw [show daysBeforeYear (-262143) = -95745764 by decide] at lower
  rw [show daysBeforeYear (262142 + 1) = 95745765 by decide] at upper
  rw [number, epochDay]
  omega

end Date

/-! ## Moments -/

namespace TimeOfDay

theorem secondOfDay_lt (t : TimeOfDay) : t.secondOfDay < 86400 := by
  obtain ⟨hour, minute, second⟩ := t.hour_lt, t.minute_lt, t.second_lt
  unfold secondOfDay
  omega

theorem ofSecondOfDay_eq_iff {second nanosecond : Nat} (second_lt : second < 86400)
    (nanosecond_lt : nanosecond < 1000000000) {t : TimeOfDay} :
    ofSecondOfDay second nanosecond second_lt nanosecond_lt = t ↔
      t.secondOfDay = second ∧ t.nanosecond = nanosecond := by
  constructor
  · rintro rfl
    refine ⟨?_, rfl⟩
    simp only [secondOfDay, ofSecondOfDay]
    omega
  · rcases t with ⟨hour, minute, second', nanosecond', hour_lt, minute_lt, second_lt', range⟩
    rintro ⟨rfl, rfl⟩
    simp only [ofSecondOfDay, secondOfDay, TimeOfDay.mk.injEq, and_true]
    omega

end TimeOfDay

namespace Moment

theorem ofEpoch?_eq_some_iff {second : Int} {nanosecond : Nat}
    (nanosecond_lt : nanosecond < 1000000000) {m : Moment} :
    ofEpoch? second nanosecond nanosecond_lt = some m ↔
      m.epochSecond = second ∧ m.time.nanosecond = nanosecond := by
  have inDay := m.time.secondOfDay_lt
  simp only [ofEpoch?, Option.map_eq_some_iff, Date.ofDayNumber?_eq_some_iff, epochSecond]
  constructor
  · rintro ⟨date, number, rfl⟩
    obtain ⟨seconds, nanoseconds⟩ :=
      (TimeOfDay.ofSecondOfDay_eq_iff (by omega) nanosecond_lt).1
        (rfl : TimeOfDay.ofSecondOfDay (second % 86400).toNat nanosecond _ _ = _)
    refine ⟨?_, nanoseconds⟩
    rw [number, seconds]
    omega
  · rintro ⟨seconds, nanoseconds⟩
    refine ⟨m.date, by omega, ?_⟩
    rw [(TimeOfDay.ofSecondOfDay_eq_iff (by omega) nanosecond_lt).2 ⟨by omega, nanoseconds⟩]

/-- The fraction of a second is so many whole microseconds, and no leap second. -/
def WholeMicroseconds (m : Moment) : Prop :=
  m.time.nanosecond < 1000000000 ∧ m.time.nanosecond % 1000 = 0

theorem ofEpochMicrosecond?_eq_some_iff {microsecond : Int} {m : Moment} :
    ofEpochMicrosecond? microsecond = some m ↔
      m.WholeMicroseconds ∧ m.epochNanosecond = microsecond * 1000 := by
  rw [ofEpochMicrosecond?, ofEpoch?_eq_some_iff]
  unfold WholeMicroseconds epochNanosecond
  omega

/-- The seconds from the start of 1970 to the first moment and to the last. -/
theorem epochSecond_range (m : Moment) :
    -8334601228800 ≤ m.epochSecond ∧ m.epochSecond ≤ 8210266876799 := by
  have days := m.date.dayNumber_range
  have inDay := m.time.secondOfDay_lt
  unfold epochSecond
  omega

end Moment

end SqlDialect

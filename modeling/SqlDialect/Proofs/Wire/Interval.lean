import SqlDialect.Proofs.Wire.Calendar

/-! Lengths of time added up in words.

A server sends microseconds in 64 bits and days and months in 32 bits each. They are added up step
by step, in words of 64 bits and in lengths of time, which have a range too. No step leaves its
range, whatever the bytes, and the sum is the length of time that is read from them.
-/

set_option autoImplicit false

namespace SqlDialect

def word64? (i : Int) : Option Int64 :=
  if Int64.minValue.toInt ≤ i ∧ i ≤ Int64.maxValue.toInt then some (Int64.ofInt i) else none

theorem exists_word64? {i : Int} (least : -2 ^ 63 ≤ i) (greatest : i < 2 ^ 63) :
    ∃ word, word64? i = some word ∧ word.toInt = i := by
  have range : Int64.minValue.toInt ≤ i ∧ i ≤ Int64.maxValue.toInt := by
    rw [Int64.toInt_minValue, Int64.toInt_maxValue]
    omega
  exact ⟨Int64.ofInt i, if_pos range, Int64.toInt_ofInt_of_le least greatest⟩

namespace Interval

def ofMicroseconds? (microseconds : Int64) : Option Interval :=
  ofNanoseconds? (microseconds.toInt * 1000)

/-- So many days, which are counted in seconds first. -/
def ofDays? (days : Int64) : Option Interval :=
  (word64? (days.toInt * 86400)).bind fun seconds => ofSeconds? seconds.toInt

def add? (a b : Interval) : Option Interval := ofNanoseconds? (a.nanoseconds + b.nanoseconds)

theorem exists_ofNanoseconds? {n : Int} (range : -longestInterval ≤ n ∧ n ≤ longestInterval) :
    ∃ length, ofNanoseconds? n = some length ∧ length.nanoseconds = n :=
  ⟨⟨n, range⟩, dif_pos range, rfl⟩

theorem exists_ofMicroseconds? (microseconds : Int64) :
    ∃ length, ofMicroseconds? microseconds = some length ∧
      length.nanoseconds = microseconds.toInt * 1000 := by
  have least := microseconds.le_toInt
  have greatest := microseconds.toInt_lt
  refine exists_ofNanoseconds? ?_
  unfold longestInterval
  omega

/-- A word can say too many days, but not below a hundred thousand million of them. -/
theorem exists_ofDays? {days : Int64} (least : -100000000000 ≤ days.toInt)
    (greatest : days.toInt ≤ 100000000000) :
    ∃ length, ofDays? days = some length ∧
      length.nanoseconds = days.toInt * (86400 * 1000000000) := by
  obtain ⟨seconds, word, same⟩ := exists_word64? (i := days.toInt * 86400) (by omega) (by omega)
  have range : -longestInterval ≤ seconds.toInt * 1000000000 ∧
      seconds.toInt * 1000000000 ≤ longestInterval := by
    rw [same]
    unfold longestInterval
    omega
  obtain ⟨length, made, total⟩ := exists_ofNanoseconds? range
  refine ⟨length, ?_, ?_⟩
  · rw [ofDays?, word]
    exact made
  · rw [total, same]
    omega

end Interval

namespace Wire

def intervalBytes (microseconds : Int64) (days months : Int32) : Bytes :=
  signed 8 microseconds.toInt ++ (signed 4 days.toInt ++ signed 4 months.toInt)

/-- Days, and thirty more for each month, unless a step overflows. -/
def totalDays? (days months : Int32) : Option Int64 := do
  let monthDays ← word64? (months.toInt * 30)
  word64? (days.toInt + monthDays.toInt)

/-- Microseconds, days and months as one length of time, unless a step overflows or leaves the range
of lengths of time. -/
def sumInterval? (microseconds : Int64) (days months : Int32) : Option Interval := do
  let totalDays ← totalDays? days months
  let time ← Interval.ofMicroseconds? microseconds
  let wholeDays ← Interval.ofDays? totalDays
  time.add? wholeDays

variable (microseconds : Int64) (days months : Int32)

theorem exists_totalDays? :
    ∃ total, totalDays? days months = some total ∧
      total.toInt = days.toInt + 30 * months.toInt := by
  have := days.le_toInt
  have := days.toInt_lt
  have := months.le_toInt
  have := months.toInt_lt
  obtain ⟨monthDays, product, thirty⟩ :=
    exists_word64? (i := months.toInt * 30) (by omega) (by omega)
  obtain ⟨total, sum, same⟩ :=
    exists_word64? (i := days.toInt + monthDays.toInt) (by omega) (by omega)
  refine ⟨total, ?_, by omega⟩
  rw [totalDays?, product]
  exact sum

theorem exists_sumInterval? :
    ∃ length, sumInterval? microseconds days months = some length ∧
      length.nanoseconds =
        intervalNanoseconds microseconds.toInt days.toInt months.toInt := by
  have := days.le_toInt
  have := days.toInt_lt
  have := months.le_toInt
  have := months.toInt_lt
  obtain ⟨totalDays, counted, sum⟩ := exists_totalDays? days months
  obtain ⟨time, made, short⟩ := Interval.exists_ofMicroseconds? microseconds
  obtain ⟨wholeDays, made', long⟩ := @Interval.exists_ofDays? totalDays (by omega) (by omega)
  have total : time.nanoseconds + wholeDays.nanoseconds =
      intervalNanoseconds microseconds.toInt days.toInt months.toInt := by
    rw [short, long, sum]
    rfl
  have range := intervalNanoseconds_range (fits_int64 microseconds) (fits_int32 days)
    (fits_int32 months)
  rw [← total] at range
  obtain ⟨length, added, same⟩ := Interval.exists_ofNanoseconds? range
  refine ⟨length, ?_, same.trans total⟩
  simp only [sumInterval?, counted, made, made', Option.bind_eq_bind, Option.bind_some]
  exact added

theorem decodeInterval_intervalBytes :
    decodeInterval (intervalBytes microseconds days months) =
      sumInterval? microseconds days months := by
  obtain ⟨length, sum, total⟩ := exists_sumInterval? microseconds days months
  rw [sum, intervalBytes, decodeInterval_signed (fits_int64 _) (fits_int32 _) (fits_int32 _),
    Interval.ofNanoseconds?_eq_some_iff]
  exact total

theorem length_eq_sixteen_iff {bytes : Bytes} :
    bytes.length = 16 ↔
      ∃ microseconds days months, bytes = intervalBytes microseconds days months := by
  constructor
  · intro long
    obtain ⟨microseconds, after, fitsTime, rfl, eight⟩ := exists_signed_append 8 8 long
    obtain ⟨days, after, fitsDays, rfl, four⟩ := exists_signed_append 4 4 eight
    obtain ⟨months, fitsMonths, rfl⟩ := exists_signed four
    refine ⟨Int64.ofInt microseconds, Int32.ofInt days, Int32.ofInt months, ?_⟩
    rw [intervalBytes, fitsTime.toInt_int64, fitsDays.toInt_int32, fitsMonths.toInt_int32]
  · rintro ⟨microseconds, days, months, rfl⟩
    simp [intervalBytes]

theorem decodeInterval_eq_none_iff {bytes : Bytes} :
    decodeInterval bytes = none ↔ bytes.length ≠ 16 := by
  constructor
  · rintro missing long
    obtain ⟨microseconds, days, months, rfl⟩ := length_eq_sixteen_iff.1 long
    obtain ⟨length, sum, -⟩ := exists_sumInterval? microseconds days months
    rw [decodeInterval_intervalBytes, sum] at missing
    cases missing
  · exact fun other => if_neg other

/-- Lengths of time are read from sixteen bytes, and from no other number of bytes. These are always
the bytes of three words, and whatever the words, no step of their sum overflows or leaves the range
of lengths of time, and the sum is exact. -/
theorem decodeInterval_sums (bytes : Bytes) :
    (decodeInterval bytes = none ↔ bytes.length ≠ 16) ∧
    (bytes.length = 16 ↔
      ∃ microseconds days months, bytes = intervalBytes microseconds days months) ∧
    ∀ microseconds days months, ∃ length,
      decodeInterval (intervalBytes microseconds days months) = some length ∧
      sumInterval? microseconds days months = some length ∧
      length.nanoseconds =
        (microseconds.toInt + (days.toInt + 30 * months.toInt) * (86400 * 1000000)) * 1000 := by
  refine ⟨decodeInterval_eq_none_iff, length_eq_sixteen_iff, fun microseconds days months => ?_⟩
  obtain ⟨length, sum, total⟩ := exists_sumInterval? microseconds days months
  refine ⟨length, (decodeInterval_intervalBytes ..).trans sum, sum, ?_⟩
  rw [total, intervalNanoseconds]
  omega

end Wire

end SqlDialect

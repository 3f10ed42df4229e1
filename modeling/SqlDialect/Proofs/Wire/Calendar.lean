import SqlDialect.Proofs.Calendar.Day
import SqlDialect.Proofs.Wire.Bytes

/-! The bytes of dates, moments and lengths of time.

A server counts from the start of 2000, in whole days and in whole microseconds, and its counters
reach further than the dates here in both directions. So every date and every moment is sent
without loss but of what is less than a microsecond, and not everything that is sent is a date.
-/

set_option autoImplicit false

namespace SqlDialect

theorem Interval.ofNanoseconds?_eq_some_iff {n : Int} {length : Interval} :
    ofNanoseconds? n = some length ↔ length.nanoseconds = n := by
  unfold ofNanoseconds?
  constructor
  · intro inRange
    split at inRange
    next => cases inRange; rfl
    next => cases inRange
  · rintro rfl
    rw [dif_pos length.range]

namespace Wire

variable {i : Int} {bytes : Bytes} {m : Moment}

/-! ## Dates and moments -/

theorem fits_momentMicroseconds (m : Moment) : Fits 8 (momentMicroseconds m) := by
  have range := m.epochSecond_range
  have fraction : m.time.nanosecond < 2000000000 := by
    have := m.time.nanosecond_range
    omega
  have magnitude : (momentMicroseconds m).natAbs =
      (m.epochNanosecond - serverEpochDay * 86400 * 1000000000).natAbs / 1000 := Int.natAbs_tdiv _ _
  unfold Moment.epochNanosecond serverEpochDay at magnitude
  unfold Fits
  rw [capacity_eight]
  omega

theorem momentMicroseconds_eq_iff (whole : m.WholeMicroseconds) :
    momentMicroseconds m = i ↔
      m.epochNanosecond = (i + serverEpochDay * 86400 * 1000000) * 1000 := by
  obtain ⟨j, multiple⟩ :
      ∃ j, m.epochNanosecond - serverEpochDay * 86400 * 1000000000 = j * 1000 := by
    unfold Moment.WholeMicroseconds at whole
    unfold Moment.epochNanosecond serverEpochDay
    exact ⟨m.epochSecond * 1000000 + m.time.nanosecond / 1000 - 10957 * 86400 * 1000000, by omega⟩
  have quotient : momentMicroseconds m = j := by
    rw [momentMicroseconds, multiple, Int.mul_tdiv_cancel j (by decide)]
  omega

theorem decodeMoment_eq_some_iff :
    decodeMoment bytes = some m ↔
      m.WholeMicroseconds ∧ bytes = signed 8 (momentMicroseconds m) := by
  simp only [decodeMoment, Option.bind_eq_some_iff, exactSigned?_eq_some_iff,
    Moment.ofEpochMicrosecond?_eq_some_iff]
  constructor
  · rintro ⟨i, ⟨-, rfl⟩, whole, same⟩
    exact ⟨whole, congrArg (signed 8) ((momentMicroseconds_eq_iff whole).2 same).symm⟩
  · rintro ⟨whole, rfl⟩
    exact ⟨_, ⟨fits_momentMicroseconds m, rfl⟩, whole, (momentMicroseconds_eq_iff whole).1 rfl⟩

theorem fits_date (d : Date) : Fits 4 (d.dayNumber - serverEpochDay) := by
  have range := d.dayNumber_range
  unfold Fits serverEpochDay
  rw [capacity_four]
  omega

theorem decodeDate_eq_some_iff {d : Date} :
    decodeDate bytes = some d ↔ bytes = signed 4 (d.dayNumber - serverEpochDay) := by
  simp only [decodeDate, Option.bind_eq_some_iff, exactSigned?_eq_some_iff,
    Date.ofDayNumber?_eq_some_iff]
  constructor
  · rintro ⟨i, ⟨-, rfl⟩, same⟩
    exact congrArg (signed 4) (by omega)
  · rintro rfl
    exact ⟨_, ⟨fits_date d, rfl⟩, by omega⟩

/-! ## Lengths of time -/

def intervalNanoseconds (microseconds days months : Int) : Int :=
  microseconds * 1000 + (days + 30 * months) * (86400 * 1000000000)

theorem intervalNanoseconds_range {microseconds days months : Int} (fitsTime : Fits 8 microseconds)
    (fitsDays : Fits 4 days) (fitsMonths : Fits 4 months) :
    -longestInterval ≤ intervalNanoseconds microseconds days months ∧
      intervalNanoseconds microseconds days months ≤ longestInterval := by
  unfold Fits at fitsTime fitsDays fitsMonths
  rw [capacity_eight] at fitsTime
  rw [capacity_four] at fitsDays fitsMonths
  unfold intervalNanoseconds longestInterval
  omega

theorem decodeInterval_signed {microseconds days months : Int} (fitsTime : Fits 8 microseconds)
    (fitsDays : Fits 4 days) (fitsMonths : Fits 4 months) :
    decodeInterval (signed 8 microseconds ++ (signed 4 days ++ signed 4 months)) =
      Interval.ofNanoseconds? (intervalNanoseconds microseconds days months) := by
  have afterDays : (signed 8 microseconds ++ (signed 4 days ++ signed 4 months)).drop 12 =
      signed 4 months := by
    rw [← List.append_assoc, List.drop_left' (by simp)]
  rw [decodeInterval, if_pos (by simp), afterDays, List.take_left' (length_signed 8 _),
    List.drop_left' (length_signed 8 _), List.take_left' (length_signed 4 _),
    signedValue_signed fitsTime, signedValue_signed fitsDays, signedValue_signed fitsMonths]
  rfl

theorem decodeInterval_eq_some_iff {length : Interval} :
    decodeInterval bytes = some length ↔
      ∃ microseconds days months, Fits 8 microseconds ∧ Fits 4 days ∧ Fits 4 months ∧
        bytes = signed 8 microseconds ++ (signed 4 days ++ signed 4 months) ∧
        length.nanoseconds = intervalNanoseconds microseconds days months := by
  constructor
  · intro read
    have long : bytes.length = 16 := by
      unfold decodeInterval at read
      split at read
      next long => exact long
      next => cases read
    obtain ⟨microseconds, after, fitsTime, rfl, eight⟩ := exists_signed_append 8 8 long
    obtain ⟨days, after, fitsDays, rfl, four⟩ := exists_signed_append 4 4 eight
    obtain ⟨months, fitsMonths, rfl⟩ := exists_signed four
    rw [decodeInterval_signed fitsTime fitsDays fitsMonths,
      Interval.ofNanoseconds?_eq_some_iff] at read
    exact ⟨microseconds, days, months, fitsTime, fitsDays, fitsMonths, rfl, read⟩
  · rintro ⟨microseconds, days, months, fitsTime, fitsDays, fitsMonths, rfl, total⟩
    rw [decodeInterval_signed fitsTime fitsDays fitsMonths, Interval.ofNanoseconds?_eq_some_iff]
    exact total

end Wire

end SqlDialect

import SqlDialect.Proofs.Session.Stored

/-! The forms in which a moment may be stored.

A number of seconds, its digits and the moment written out are all read as the same moment: no
moment and no date is written like a number, so none of the forms is taken for another.
-/

set_option autoImplicit false

namespace SqlDialect

theorem Moment.wholeSecond_eq_self {m : Moment} (whole : m.time.nanosecond = 0) :
    m.wholeSecond = m := by
  obtain ⟨date, hour, minute, second, nanosecond⟩ := m
  cases whole
  rfl

namespace Cell

variable {m : Moment} {s : Text}

theorem decodeTimestamp_int_epochSecond (m : Moment) :
    (int (Int64.ofInt m.epochSecond)).decodeTimestamp = datetime m.wholeSecond := by
  simp only [decodeTimestamp, moment?_int_epochSecond]

theorem decodeTimestamp_text_of_integer? (read : s.trim.integer? = some m.epochSecond) :
    (text s).decodeTimestamp = datetime m.wholeSecond := by
  have number : (text s).integer? = some (Int64.ofInt m.epochSecond) :=
    Text.int64?_of_integer? (by rw [read, m.toInt_epochSecond])
  have found : (text s).moment? = some m.wholeSecond := by
    rw [← moment?_int_epochSecond, moment?, number]
    rfl
  simp only [decodeTimestamp, found]

theorem decodeTimestamp_text_clockText (whole : m.time.nanosecond = 0)
    (trimmed : s.trim = m.clockText) : (text s).decodeTimestamp = datetime m := by
  have written := Calendar.moment?_clockText whole
  have noNumber : (text s).moment? = none := by
    simp only [moment?, integer?, trimmed, Calendar.int64?_of_moment? written, Option.bind_none]
  simp only [decodeTimestamp, noNumber, trimmed, written, Option.map_some, Option.getD_some]

theorem decodeDate_text_toText {d : Date} (trimmed : s.trim = d.toText) :
    (text s).decodeDate = date d := by
  have noNumber : (text s).moment? = none := by
    simp only [moment?, integer?, trimmed, d.int64?_toText, Option.bind_none]
  simp only [decodeDate, noNumber, trimmed, Calendar.date?_toText, Option.map_some,
    Option.getD_some]

/-- The number of seconds, its digits with or without a sign that changes nothing, and the moment
written out are read as the same moment, and a date written out as the date, whatever white space
stands around the text. -/
theorem decodeTimestamp_forms (whole : m.time.nanosecond = 0) :
    (Int64.ofInt m.epochSecond).toInt = m.epochSecond ∧ m.toText = m.clockText ∧
      (int (Int64.ofInt m.epochSecond)).decodeTimestamp = datetime m ∧
      (∀ lead trail : Text, lead.Blank → trail.Blank →
        (text (lead ++ Text.ofInt m.epochSecond ++ trail)).decodeTimestamp = datetime m ∧
        (0 ≤ m.epochSecond →
          (text (lead ++ '+' :: Text.ofInt m.epochSecond ++ trail)).decodeTimestamp = datetime m) ∧
        (text (lead ++ m.clockText ++ trail)).decodeTimestamp = datetime m ∧
        ∀ d : Date, (text (lead ++ d.toText ++ trail)).decodeDate = date d) ∧
      ∀ d : Date, (d.toText.head? = some '-' ↔ d.year < 0) ∧
        (d.toText.head? = some '+' ↔ 9999 < d.year) := by
  have same := m.wholeSecond_eq_self whole
  refine ⟨m.toInt_epochSecond, m.toText_of_whole whole, ?_,
    fun lead trail before after => ⟨?_, fun positive => ?_, ?_, ?_⟩, Date.head?_toText_iff⟩
  · rw [decodeTimestamp_int_epochSecond, same]
  · have trimmed : (lead ++ Text.ofInt m.epochSecond ++ trail).trim = Text.ofInt m.epochSecond := by
      rw [Text.trim_surrounded before after]
      exact Text.trim_of_all_visible fun _ => Text.isBlank_of_mem_ofInt
    rw [decodeTimestamp_text_of_integer? (by rw [trimmed, Text.integer?_ofInt]), same]
  · have trimmed : (lead ++ '+' :: Text.ofInt m.epochSecond ++ trail).trim =
        '+' :: Text.ofInt m.epochSecond := by
      rw [Text.trim_surrounded before after]
      exact Text.trim_of_all_visible
        (List.forall_mem_cons.2 ⟨by decide, fun _ => Text.isBlank_of_mem_ofInt⟩)
    rw [decodeTimestamp_text_of_integer? (by rw [trimmed, Text.integer?_plus_ofInt positive]), same]
  · refine decodeTimestamp_text_clockText whole ?_
    rw [Text.trim_surrounded before after, m.trim_clockText]
  · intro d
    refine decodeDate_text_toText ?_
    rw [Text.trim_surrounded before after, d.trim_toText]

/-- The last second before 1970 and the first moment of the year -1, with line feeds around. -/
theorem decodeTimestamp_forms_before_epoch :
    let last : Moment := ⟨⟨1969, 12, 31, by decide, by decide, by decide⟩,
      ⟨23, 59, 59, 0, by decide, by decide, by decide, by decide⟩⟩
    let early : Moment := ⟨⟨-1, 1, 1, by decide, by decide, by decide⟩,
      ⟨0, 0, 0, 0, by decide, by decide, by decide, by decide⟩⟩
    last.time.nanosecond = 0 ∧ (int (-1)).decodeTimestamp = datetime last ∧
      (text "\n-1 ").decodeTimestamp = datetime last ∧
      (text "\n1969-12-31 23:59:59 ").decodeTimestamp = datetime last ∧
      (text "\n-0001-01-01 00:00:00 ").decodeTimestamp = datetime early ∧
      (text "\n-0001-01-01 ").decodeDate = date early.date := by
  intro last early
  have before : Text.Blank "\n" := List.all_eq_true.1 (by decide)
  have after : Text.Blank " " := List.all_eq_true.1 (by decide)
  obtain ⟨second, number, moment, first, day⟩ : Int64.ofInt last.epochSecond = -1 ∧
      "\n".toList ++ Text.ofInt last.epochSecond ++ " ".toList = "\n-1 ".toList ∧
      "\n".toList ++ last.clockText ++ " ".toList = "\n1969-12-31 23:59:59 ".toList ∧
      "\n".toList ++ early.clockText ++ " ".toList = "\n-0001-01-01 00:00:00 ".toList ∧
      "\n".toList ++ early.date.toText ++ " ".toList = "\n-0001-01-01 ".toList := by
    decide +kernel
  obtain ⟨-, -, seconds, written, -⟩ := decodeTimestamp_forms (m := last) rfl
  obtain ⟨digits, -, spelled, -⟩ := written "\n" " " before after
  obtain ⟨-, -, -, writtenEarly, -⟩ := decodeTimestamp_forms (m := early) rfl
  obtain ⟨-, -, spelledEarly, dates⟩ := writtenEarly "\n" " " before after
  have date := dates early.date
  rw [second] at seconds
  rw [number] at digits
  rw [moment] at spelled
  rw [first] at spelledEarly
  rw [day] at date
  exact ⟨rfl, seconds, digits, spelled, spelledEarly, date⟩

end Cell

end SqlDialect

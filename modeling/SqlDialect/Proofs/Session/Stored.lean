import SqlDialect.Proofs.Calendar.Reader
import SqlDialect.Session.Stored

/-! Cells read back from their stored form.

What a column of one of the decoded types holds is stored as a number or as the text of a date. No
such text is a number, so each form is read as what it was written for; only fractions of seconds
are lost.
-/

set_option autoImplicit false

namespace SqlDialect

/-! ## Declared types -/

namespace Declared

def name : Declared → Text
  | date => "DATE"
  | timestamp => "TIMESTAMP"
  | interval => "INTERVAL"
  | boolean => "BOOLEAN"

theorem isAlpha_of_mem_name {type : Declared} {c : Char} (mem : c ∈ type.name.fold) :
    c.isAlpha = true := by
  have all : type.name.fold.all Char.isAlpha = true := by cases type <;> decide
  exact List.all_eq_true.1 all c mem

theorem ofText?_append {type : Declared} {spelling tail : Text}
    (named : spelling.agrees type.name = true)
    (ends : ∀ c ∈ tail.head?, isBlank c = true ∨ c = '(') :
    ofText? (spelling ++ tail) = some type := by
  have same : spelling.fold = type.name.fold := Text.agrees_iff.1 named
  have inside : ∀ c ∈ spelling, (!(isBlank c || c == '(')) = true := by
    intro c mem
    have folded : c.toLower ∈ type.name.fold := by
      rw [← same]
      exact List.mem_map_of_mem mem
    have letter := isAlpha_of_toLower (isAlpha_of_mem_name folded)
    have range := toNat_of_isAlpha letter
    have visible : isBlank c = false := by
      unfold isBlank
      simp
      omega
    have noParenthesis : c ≠ '(' := by
      rintro rfl
      exact absurd range (by decide)
    simp [visible, noParenthesis]
  have base : (spelling ++ tail).takeWhile (fun c => !(isBlank c || c == '(')) = spelling := by
    refine takeWhile_run inside fun c first => ?_
    rcases ends c first with blank | rfl
    · simp [blank]
    · decide
  have agrees (word : Text) : spelling.agrees word = type.name.agrees word := by
    rw [Text.agrees, same]
    rfl
  simp only [ofText?, base, agrees]
  cases type <;> decide

end Declared

/-! ## Whole seconds -/

/-- The moment without its fraction of a second. The nanoseconds of a leap second are a fraction of
the second that it follows. -/
def Moment.wholeSecond (m : Moment) : Moment :=
  { m with time := { m.time with nanosecond := 0, nanosecond_range := .inl (by decide) } }

theorem Moment.ofEpochSecond?_epochSecond (m : Moment) :
    ofEpochSecond? m.epochSecond = some m.wholeSecond :=
  (ofEpoch?_eq_some_iff _).2 ⟨rfl, rfl⟩

theorem Moment.toInt_epochSecond (m : Moment) :
    (Int64.ofInt m.epochSecond).toInt = m.epochSecond := by
  have range := m.epochSecond_range
  exact Int64.toInt_ofInt_of_le (by omega) (by omega)

namespace Interval

theorem seconds_range (i : Interval) :
    -9223372036854775 ≤ i.seconds ∧ i.seconds ≤ 9223372036854775 := by
  have range := i.range
  have size : i.seconds.natAbs = i.nanoseconds.natAbs / 1000000000 := Int.natAbs_tdiv _ _
  unfold longestInterval at range
  omega

/-- The interval without its fraction of a second, which makes it shorter, not less. -/
def wholeSeconds (i : Interval) : Interval where
  nanoseconds := i.seconds * 1000000000
  range := by
    have := i.seconds_range
    unfold longestInterval
    omega

theorem ofSeconds?_seconds (i : Interval) : ofSeconds? i.seconds = some i.wholeSeconds :=
  dif_pos i.wholeSeconds.range

end Interval

/-! ## Stored cells -/

namespace Cell

/-- `Held type c back`: a column of the declared type holds the cell `c`, of which `back` is left
when it is read. -/
inductive Held : Declared → Cell → Cell → Prop where
  | boolean (b : Bool) : Held .boolean (.bool b) (.bool b)
  | date (d : Date) : Held .date (.date d) (.date d)
  | timestamp (m : Moment) : Held .timestamp (.datetime m) (.datetime m.wholeSecond)
  | interval (i : Interval) : Held .interval (.interval i) (.interval i.wholeSeconds)

theorem moment?_int_epochSecond (m : Moment) :
    (int (Int64.ofInt m.epochSecond)).moment? = some m.wholeSecond := by
  simp only [moment?, integer?, Option.bind_some, m.toInt_epochSecond]
  exact m.ofEpochSecond?_epochSecond

theorem moment?_text_date (d : Date) : (text d.toText).moment? = none := by
  simp only [moment?, integer?, d.trim_toText, d.int64?_toText, Option.bind_none]

theorem decodeInterval_int_seconds (i : Interval) :
    (int (Int64.ofInt i.seconds)).decodeInterval = some (interval i.wholeSeconds) := by
  have range := i.seconds_range
  have fits : (Int64.ofInt i.seconds).toInt = i.seconds :=
    Int64.toInt_ofInt_of_le (by omega) (by omega)
  simp only [decodeInterval, integer?, Option.map_some, Option.getD_some, fits,
    i.ofSeconds?_seconds]

theorem Held.decode {type : Declared} {c back : Cell} (held : Held type c back) :
    ∃ d, c.stored? = some d ∧ d.toCell.isNull = false ∧ d.toCell.decode type = some back := by
  cases held with
  | boolean b =>
    refine ⟨_, rfl, rfl, ?_⟩
    cases b <;> rfl
  | date d =>
    refine ⟨_, rfl, rfl, congrArg some ?_⟩
    change (text d.toText).decodeDate = Cell.date d
    simp only [decodeDate, moment?_text_date, d.trim_toText, Calendar.date?_toText, Option.map_some,
      Option.getD_some]
  | timestamp m =>
    refine ⟨_, rfl, rfl, congrArg some ?_⟩
    change (int (Int64.ofInt m.epochSecond)).decodeTimestamp = datetime m.wholeSecond
    simp only [decodeTimestamp, moment?_int_epochSecond]
  | interval i => exact ⟨_, rfl, rfl, decodeInterval_int_seconds i⟩

/-- A cell that a column holds is read back from its stored form, up to its fraction of a second. -/
theorem bind_ofStored?_stored? {type : Declared} {c back : Cell} (held : Held type c back)
    {spelling tail : Text} (named : spelling.agrees type.name = true)
    (ends : ∀ c ∈ tail.head?, isBlank c = true ∨ c = '(') :
    c.stored?.bind (ofStored? (spelling ++ tail)) = some back := by
  obtain ⟨d, stored, present, decoded⟩ := held.decode
  rw [stored, Option.bind_some, ofStored?, decodeDeclared, present,
    Declared.ofText?_append named ends]
  exact decoded

/-- The last moment of 1969 but for a quarter of a second, in a column with a precision. -/
theorem bind_ofStored?_stored?_before_epoch :
    let m : Moment := ⟨⟨1969, 12, 31, by decide, by decide, by decide⟩,
      ⟨23, 59, 59, 750000000, by decide, by decide, by decide, by decide⟩⟩
    Held .timestamp (datetime m) (datetime m.wholeSecond) ∧
      Text.agrees "timeStamp" (Declared.timestamp).name = true ∧
      (∀ c ∈ List.head? "(6) NOT NULL".toList, isBlank c = true ∨ c = '(') ∧
      (datetime m).stored?.bind (ofStored? "timeStamp(6) NOT NULL") =
        some (datetime m.wholeSecond) := by
  intro m
  have held : Held .timestamp (datetime m) (datetime m.wholeSecond) := .timestamp m
  have named : Text.agrees "timeStamp" (Declared.timestamp).name = true := by decide
  have ends : ∀ c ∈ List.head? "(6) NOT NULL".toList, isBlank c = true ∨ c = '(' := by
    rintro c ⟨⟩
    exact .inr rfl
  exact ⟨held, named, ends, bind_ofStored?_stored? held named ends⟩

end Cell

end SqlDialect

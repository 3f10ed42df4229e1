import SqlDialect.Proofs.Session.Stored
import SqlDialect.Proofs.Wire.Calendar

/-! Stored cells read by the text of their column's declared type.

`Stands` says for which value of a type a stored cell stands, apart from the order in which the
forms are tried: a number stands for a moment, a truth value or a length of time, and the text of a
date or a moment for that, which is never a number as well. `Decodes` says what is read then: that
value, or the cell as it is, or no time at all for a cell that stands for no length of time. The one
cell for which nothing is read is a number of more seconds than a length of time can have.
-/

set_option autoImplicit false

namespace SqlDialect

/-! ## Declared types -/

namespace Declared

/-- `Names type s`: the text begins with the name of the type in any case, and goes on, if at all,
with white space or a parenthesis. -/
inductive Names (type : Declared) : Text → Prop where
  | intro {spelling tail : Text} (named : spelling.agrees type.name = true)
      (ends : ∀ c ∈ tail.head?, isBlank c = true ∨ c = '(') : Names type (spelling ++ tail)

theorem ofText?_eq_some_iff {type : Declared} {s : Text} :
    ofText? s = some type ↔ type.Names s := by
  constructor
  · intro read
    have ends : ∀ c ∈ (s.dropWhile fun c => !(isBlank c || c == '(')).head?,
        isBlank c = true ∨ c = '(' := by
      intro c first
      have stop := List.head?_dropWhile_not (fun c => !(isBlank c || c == '(')) s
      rw [first] at stop
      simpa only [Bool.not_eq_false', Bool.or_eq_true, beq_iff_eq] using stop
    rw [← List.takeWhile_append_dropWhile (p := fun c => !(isBlank c || c == '(')) (l := s)]
    refine .intro ?_ ends
    unfold ofText? at read
    dsimp only at read
    split at read
    next named => cases read; exact named
    split at read
    next named => cases read; exact named
    split at read
    next named => cases read; exact named
    split at read
    next named => cases read; exact named
    next => cases read
  · rintro ⟨named, ends⟩
    exact ofText?_append named ends

end Declared

namespace Cell

variable {type : Text} {declared : Declared} {stored back : Cell} {i : Int64}

/-! ## Numbers -/

/-- `Counts stored i`: the cell is the whole number, or its digits within white space. -/
inductive Counts : Cell → Int64 → Prop where
  | int (i : Int64) : Counts (int i) i
  | text {s : Text} {i : Int64} (numeral : s.trim.Numeral i.toInt) : Counts (text s) i

theorem integer?_eq_some_iff : stored.integer? = some i ↔ stored.Counts i := by
  constructor
  · intro read
    unfold integer? at read
    split at read
    next => cases read; exact .int i
    next => exact .text (Text.int64?_eq_some_iff.1 read)
    next => cases read
  · rintro (_ | numeral)
    · rfl
    · exact Text.int64?_eq_some_iff.2 numeral

theorem moment?_eq_some_iff {m : Moment} :
    stored.moment? = some m ↔
      ∃ i, stored.Counts i ∧ m.epochSecond = i.toInt ∧ m.time.nanosecond = 0 := by
  simp only [moment?, Option.bind_eq_some_iff, integer?_eq_some_iff, Moment.ofEpochSecond?,
    Moment.ofEpoch?_eq_some_iff]

/-! ## What a stored cell stands for -/

/-- `Stands declared stored back`: in a column of the type, the stored cell stands for the value. -/
inductive Stands : Declared → Cell → Cell → Prop where
  | boolean {stored : Cell} {i : Int64} (counts : stored.Counts i) :
      Stands .boolean stored (bool (i != 0))
  | interval {stored : Cell} {i : Int64} {length : Interval} (counts : stored.Counts i)
      (seconds : length.nanoseconds = i.toInt * 1000000000) :
      Stands .interval stored (interval length)
  | dateOfSeconds {stored : Cell} {i : Int64} {m : Moment} (counts : stored.Counts i)
      (seconds : m.epochSecond = i.toInt) (whole : m.time.nanosecond = 0) :
      Stands .date stored (datetime m)
  | timestampOfSeconds {stored : Cell} {i : Int64} {m : Moment} (counts : stored.Counts i)
      (seconds : m.epochSecond = i.toInt) (whole : m.time.nanosecond = 0) :
      Stands .timestamp stored (datetime m)
  | date {s : Text} {d : Date} (written : Calendar.date? s.trim = some d) :
      Stands .date (text s) (date d)
  | timestamp {s : Text} {m : Moment} (written : Calendar.moment? s.trim = some m) :
      Stands .timestamp (text s) (datetime m)

theorem Stands.decode (stands : Stands declared stored back) :
    stored.decode declared = some back := by
  cases stands with
  | boolean counts => simp only [Cell.decode, decodeBoolean, integer?_eq_some_iff.2 counts]
  | interval counts seconds =>
    simp only [Cell.decode, decodeInterval, integer?_eq_some_iff.2 counts, Option.map_some,
      Option.getD_some, Interval.ofSeconds?, Interval.ofNanoseconds?_eq_some_iff.2 seconds]
  | dateOfSeconds counts seconds whole =>
    simp only [Cell.decode, decodeDate, moment?_eq_some_iff.2 ⟨_, counts, seconds, whole⟩]
  | timestampOfSeconds counts seconds whole =>
    simp only [Cell.decode, decodeTimestamp, moment?_eq_some_iff.2 ⟨_, counts, seconds, whole⟩]
  | date written =>
    simp only [Cell.decode, decodeDate, moment?, integer?, Calendar.int64?_of_date? written,
      Option.bind_none, written, Option.map_some, Option.getD_some]
  | timestamp written =>
    simp only [Cell.decode, decodeTimestamp, moment?, integer?,
      Calendar.int64?_of_moment? written, Option.bind_none, written, Option.map_some,
      Option.getD_some]

theorem Counts.present (counts : stored.Counts i) : stored.isNull = false := by
  cases counts <;> rfl

theorem Stands.present (stands : Stands declared stored back) : stored.isNull = false := by
  cases stands with
  | boolean counts => exact counts.present
  | interval counts => exact counts.present
  | dateOfSeconds counts => exact counts.present
  | timestampOfSeconds counts => exact counts.present
  | date => rfl
  | timestamp => rfl

theorem decode_of_not_stands (other : declared ≠ .interval)
    (illegible : ∀ back, ¬Stands declared stored back) : stored.decode declared = some stored := by
  cases declared with
  | interval => exact absurd rfl other
  | boolean =>
    cases read : stored.integer? with
    | none => simp only [decode, decodeBoolean, read]
    | some i => exact absurd (.boolean (integer?_eq_some_iff.1 read)) (illegible _)
  | date =>
    cases read : stored.moment? with
    | some m =>
      obtain ⟨i, counts, seconds, whole⟩ := moment?_eq_some_iff.1 read
      exact absurd (.dateOfSeconds counts seconds whole) (illegible _)
    | none =>
      simp only [decode, decodeDate, read]
      cases stored with
      | text s =>
        cases written : Calendar.date? s.trim with
        | some d => exact absurd (.date written) (illegible _)
        | none => simp only [written, Option.map_none, Option.getD_none]
      | _ => rfl
  | timestamp =>
    cases read : stored.moment? with
    | some m =>
      obtain ⟨i, counts, seconds, whole⟩ := moment?_eq_some_iff.1 read
      exact absurd (.timestampOfSeconds counts seconds whole) (illegible _)
    | none =>
      simp only [decode, decodeTimestamp, read]
      cases stored with
      | text s =>
        cases written : Calendar.moment? s.trim with
        | some m => exact absurd (.timestamp written) (illegible _)
        | none => simp only [written, Option.map_none, Option.getD_none]
      | _ => rfl

/-! ## Lengths of time -/

theorem decodeInterval_of_not_counts (noNumber : ∀ i, ¬stored.Counts i) :
    stored.decodeInterval = some (interval .zero) := by
  have none : stored.integer? = none :=
    Option.eq_none_iff_forall_ne_some.2 fun i read => noNumber i (integer?_eq_some_iff.1 read)
  rw [decodeInterval, none]
  rfl

theorem exists_seconds_iff {n : Int} :
    (∃ length : Interval, length.nanoseconds = n * 1000000000) ↔
      -9223372036854775 ≤ n ∧ n ≤ 9223372036854775 := by
  constructor
  · rintro ⟨length, seconds⟩
    have range := length.range
    unfold longestInterval at range
    omega
  · intro range
    refine ⟨⟨n * 1000000000, ?_⟩, rfl⟩
    unfold longestInterval
    omega

/-- The stored cell, in a column for lengths of time, is a number of seconds that no length of time
has. -/
structure Overlong (type : Text) (stored : Cell) : Prop where
  named : Declared.interval.Names type
  seconds : ∃ i, stored.Counts i ∧ ¬(-9223372036854775 ≤ i.toInt ∧ i.toInt ≤ 9223372036854775)

theorem decodeInterval_eq_none (counts : stored.Counts i)
    (beyond : ¬(-9223372036854775 ≤ i.toInt ∧ i.toInt ≤ 9223372036854775)) :
    stored.decodeInterval = none := by
  have noLength : Interval.ofSeconds? i.toInt = none :=
    Option.eq_none_iff_forall_ne_some.2 fun length read =>
      beyond (exists_seconds_iff.1 ⟨length, Interval.ofNanoseconds?_eq_some_iff.1 read⟩)
  simp only [decodeInterval, integer?_eq_some_iff.2 counts, Option.map_some, Option.getD_some,
    noLength, Option.map_none]

theorem Counts.unique {j : Int64} (one : stored.Counts i) (other : stored.Counts j) : i = j :=
  Option.some.inj ((integer?_eq_some_iff.2 one).symm.trans (integer?_eq_some_iff.2 other))

theorem Overlong.not_stands (h : Overlong type stored) : ¬Stands .interval stored back := by
  obtain ⟨i, counts, beyond⟩ := h.seconds
  intro stands
  cases stands with
  | interval same seconds =>
    rw [same.unique counts] at seconds
    exact beyond (exists_seconds_iff.1 ⟨_, seconds⟩)

/-! ## What is read -/

/-- `Decodes type stored back`: under the declared type the stored cell is to be read as `back`. -/
inductive Decodes (type : Text) : Cell → Cell → Prop where
  | missing : Decodes type null null
  | plain {stored : Cell} (unnamed : ∀ declared : Declared, ¬declared.Names type) :
      Decodes type stored stored
  | read {declared : Declared} {stored back : Cell} (named : declared.Names type)
      (stands : Stands declared stored back) : Decodes type stored back
  | kept {declared : Declared} {stored : Cell} (named : declared.Names type)
      (other : declared ≠ .interval) (illegible : ∀ back, ¬Stands declared stored back) :
      Decodes type stored stored
  | zero {stored : Cell} (named : Declared.interval.Names type) (present : stored.isNull = false)
      (illegible : ∀ back, ¬Stands .interval stored back) : Decodes type stored (interval .zero)

theorem exists_decodes (type : Text) (stored : Cell) : ∃ back, Decodes type stored back := by
  cases present : stored.isNull with
  | true =>
    cases stored with
    | null => exact ⟨_, .missing⟩
    | _ => cases present
  | false =>
    by_cases named : ∃ declared : Declared, declared.Names type
    · obtain ⟨declared, named⟩ := named
      by_cases legible : ∃ back, Stands declared stored back
      · obtain ⟨back, stands⟩ := legible
        exact ⟨back, .read named stands⟩
      · have illegible := not_exists.1 legible
        by_cases time : declared = .interval
        · cases time
          exact ⟨_, .zero named present illegible⟩
        · exact ⟨_, .kept named time illegible⟩
    · exact ⟨_, .plain (not_exists.1 named)⟩

theorem decodeDeclared_of_names (named : declared.Names type) (present : stored.isNull = false) :
    stored.decodeDeclared type = stored.decode declared := by
  rw [decodeDeclared, present, Declared.ofText?_eq_some_iff.2 named]
  rfl

theorem decodeDeclared_null (type : Text) : null.decodeDeclared type = some null := rfl

theorem Decodes.decodeDeclared (decodes : Decodes type stored back)
    (short : ¬Overlong type stored) : stored.decodeDeclared type = some back := by
  cases decodes with
  | missing => exact decodeDeclared_null type
  | plain unnamed =>
    have none : Declared.ofText? type = none :=
      Option.eq_none_iff_forall_ne_some.2 fun declared read =>
        unnamed declared (Declared.ofText?_eq_some_iff.1 read)
    rw [Cell.decodeDeclared, none]
    split <;> rfl
  | read named stands => rw [decodeDeclared_of_names named stands.present, stands.decode]
  | kept named other illegible =>
    cases present : stored.isNull with
    | true =>
      rw [Cell.decodeDeclared, present]
      rfl
    | false => rw [decodeDeclared_of_names named present, decode_of_not_stands other illegible]
  | zero named present illegible =>
    rw [decodeDeclared_of_names named present]
    refine decodeInterval_of_not_counts fun i counts => short ⟨named, i, counts, fun fits => ?_⟩
    obtain ⟨length, seconds⟩ := exists_seconds_iff.2 fits
    exact illegible _ (.interval counts seconds)

theorem Overlong.present (h : Overlong type stored) : stored.isNull = false := by
  obtain ⟨i, counts, -⟩ := h.seconds
  exact counts.present

theorem Overlong.decodeDeclared (h : Overlong type stored) :
    stored.decodeDeclared type = none := by
  obtain ⟨i, counts, beyond⟩ := h.seconds
  rw [decodeDeclared_of_names h.named h.present]
  exact decodeInterval_eq_none counts beyond

theorem Overlong.decodes (h : Overlong type stored) : Decodes type stored (interval .zero) :=
  .zero h.named h.present fun _ => h.not_stands

/-- Every stored cell is to be read as something, and it is read as that, unless it is a number of
seconds beyond all lengths of time: this should be read as no time at all, but is not read. -/
theorem decodeDeclared_decodes (type : Text) (stored : Cell) :
    (∃ back, Decodes type stored back) ∧
      (∀ back, stored.decodeDeclared type = some back ↔
        Decodes type stored back ∧ ¬Overlong type stored) ∧
      (Overlong type stored →
        Decodes type stored (interval .zero) ∧ stored.decodeDeclared type = none) := by
  have exists_back := exists_decodes type stored
  refine ⟨exists_back, fun back => ⟨fun read => ?_, fun h => h.1.decodeDeclared h.2⟩,
    fun h => ⟨h.decodes, h.decodeDeclared⟩⟩
  have short : ¬Overlong type stored := by
    intro h
    rw [h.decodeDeclared] at read
    cases read
  obtain ⟨other, decodes⟩ := exists_back
  rw [decodes.decodeDeclared short] at read
  cases read
  exact ⟨decodes, short⟩

/-- The least number of seconds that a length of time has, as text in a column with a precision. -/
theorem decodeDeclared_decodes_least :
    (text " -9223372036854775\n").decodeDeclared "interval(6)" =
      some (interval ⟨-9223372036854775000000000, by decide⟩) := by
  have named : Declared.interval.Names "interval(6)" :=
    @Declared.Names.intro .interval "interval" "(6)" (by decide) (by rintro c ⟨⟩; exact .inr rfl)
  have counts : (text " -9223372036854775\n").Counts (-9223372036854775) :=
    .text (Text.int64?_eq_some_iff.1 (by decide))
  refine ((decodeDeclared_decodes _ _).2.1 _).2 ⟨.read named (.interval counts rfl), fun h => ?_⟩
  obtain ⟨i, same, beyond⟩ := h.seconds
  rw [same.unique counts] at beyond
  exact beyond (by decide)

/-- One second more than a length of time can have should be read as none, but is not read. -/
theorem decodeDeclared_overlong :
    Decodes "INTERVAL" (int 9223372036854776) (interval .zero) ∧
      (int 9223372036854776).decodeDeclared "INTERVAL" = none := by
  have named : Declared.interval.Names "INTERVAL" :=
    @Declared.Names.intro .interval "INTERVAL" [] (by decide) (by rintro c ⟨⟩)
  have long : Overlong "INTERVAL" (int 9223372036854776) := ⟨named, _, .int _, by decide⟩
  exact ⟨long.decodes, long.decodeDeclared⟩

end Cell

end SqlDialect

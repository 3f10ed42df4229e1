import SqlDialect.Calendar.Reader
import SqlDialect.Proofs.Calendar.Day
import SqlDialect.Proofs.Text.Numeral

/-! Dates read from what is written of them.

A year outside of four digits has a sign, and with a sign all its digits are read; so reading finds
the end of the year in both forms.
-/

set_option autoImplicit false

namespace SqlDialect

def Moment.clockText (m : Moment) : Text :=
  m.date.toText ++ ' ' :: (Date.twoDigits m.time.hour ++ ':' ::
    (Date.twoDigits m.time.minute ++ ':' :: Date.twoDigits m.time.second))

namespace Calendar

theorem dropBlank_cons_of_visible {c : Char} (r : Text) (visible : isBlank c = false) :
    Text.dropBlank (c :: r) = c :: r :=
  List.dropWhile_cons_of_neg (by simp [visible])

theorem readNumber_padLeft {width n : Nat} (rest : Text) (positive : 0 < width)
    (fits : n < 10 ^ width) :
    readNumber width (Text.padLeft '0' width (Text.ofNat n) ++ rest) = some (n, rest) := by
  have length := Text.length_padLeft_ofNat positive fits
  have digits : ∀ c ∈ Text.padLeft '0' width (Text.ofNat n), c.isDigit = true :=
    fun _ => Text.isDigit_of_mem_padLeft
  have value := Text.digitsValue_padLeft width (Text.ofNat n)
  generalize Text.padLeft '0' width (Text.ofNat n) = written at length digits value ⊢
  obtain ⟨c, r, rfl⟩ := List.exists_cons_of_length_pos (length.symm ▸ positive)
  have visible := isBlank_of_isDigit (digits c List.mem_cons_self)
  have taken : (((c :: r) ++ rest).takeWhile Char.isDigit).take width = c :: r := by
    rw [List.takeWhile_append_of_pos digits, List.take_left' length]
  rw [readNumber, List.cons_append, dropBlank_cons_of_visible _ visible, ← List.cons_append, taken]
  simp [value, Text.digitsValue_ofNat]

theorem readDigits_append {digits rest : Text} (nonempty : digits ≠ [])
    (all : ∀ c ∈ digits, c.isDigit = true) (stop : ∀ c ∈ rest.head?, c.isDigit = false) :
    readDigits (digits ++ rest) = some (Text.digitsValue digits, rest) := by
  rw [readDigits, takeWhile_run all stop, dropWhile_run all stop, if_neg nonempty]

/-! ## Years -/

theorem readYear_yearText (year : Int) (rest : Text)
    (stop : ∀ c ∈ rest.head?, c.isDigit = false) :
    readYear (Date.yearText year ++ rest) = some (year, rest) := by
  have digits := readDigits_append (Text.padLeft_ofNat_ne_nil 4 year.natAbs)
    (fun _ => Text.isDigit_of_mem_padLeft) stop
  rw [Text.digitsValue_padLeft, Text.digitsValue_ofNat] at digits
  unfold Date.yearText
  dsimp only
  split
  next negative =>
    rw [readYear, List.cons_append, dropBlank_cons_of_visible _ (by decide)]
    simp only [digits, Option.map_some]
    congr 2
    omega
  next =>
    split
    next long =>
      rw [readYear, List.cons_append, dropBlank_cons_of_visible _ (by decide)]
      simp only [digits, Option.map_some]
      congr 2
      omega
    next short =>
      have read : readNumber 4 (Text.padLeft '0' 4 (Text.ofNat year.natAbs) ++ rest) =
          some (year.natAbs, rest) := readNumber_padLeft rest (by decide) (by omega)
      obtain ⟨c, r, written⟩ := List.exists_cons_of_ne_nil (Text.padLeft_ofNat_ne_nil 4 year.natAbs)
      have digit : c.isDigit = true := Text.isDigit_of_mem_padLeft (written ▸ List.mem_cons_self)
      rw [written, List.cons_append] at read ⊢
      rw [readYear, dropBlank_cons_of_visible _ (isBlank_of_isDigit digit)]
      split
      next same =>
        cases (List.cons.inj same).1
        cases digit
      next same =>
        cases (List.cons.inj same).1
        cases digit
      next =>
        simp only [read, Option.map_some]
        congr 2
        omega

/-! ## Dates -/

theorem readNumber_twoDigits {n : Nat} (rest : Text) (fits : n < 100) :
    readNumber 2 (Date.twoDigits n ++ rest) = some (n, rest) :=
  readNumber_padLeft rest (by decide) fits

theorem readMark_cons (mark : Char) (r : Text) : readMark mark (mark :: r) = some r := if_pos rfl

theorem readDate_toText (d : Date) (rest : Text) :
    readDate (d.toText ++ rest) = some ((d.year, d.month, d.day), rest) := by
  have month : d.month < 100 := by
    have := d.month_range
    omega
  have day : d.day < 100 := by
    have := d.day_range
    have := daysInMonth_le d.year d.month
    omega
  have year := readYear_yearText d.year
    ('-' :: (Date.twoDigits d.month ++ '-' :: (Date.twoDigits d.day ++ rest)))
    (by rintro c ⟨⟩; decide)
  simp only [readDate, Date.toText, List.append_assoc, List.cons_append, year, Option.bind_eq_bind,
    Option.bind_some, readMark_cons, readNumber_twoDigits _ month, readNumber_twoDigits _ day]
  rfl

theorem date?_toText (d : Date) : date? d.toText = some d := by
  have read := readDate_toText d []
  rw [List.append_nil] at read
  rw [date?, read]
  exact Date.ofFields?_fields d

/-! ## Moments -/

theorem readNumber_space (width : Nat) (s : Text) :
    readNumber width (' ' :: s) = readNumber width s := by
  have skipped : Text.dropBlank (' ' :: s) = s.dropBlank :=
    List.dropWhile_cons_of_pos (by decide)
  rw [readNumber, skipped, readNumber]

theorem timeOfClock?_fields {t : TimeOfDay} (whole : t.nanosecond = 0) :
    timeOfClock? t.hour t.minute t.second = some t := by
  have short := t.second_lt
  rw [timeOfClock?, if_neg (by omega), ← whole]
  exact t.ofFields?_fields

theorem moment?_clockText {m : Moment} (whole : m.time.nanosecond = 0) :
    moment? m.clockText = some m := by
  have hour : m.time.hour < 100 := m.time.hour_lt.trans (by decide)
  have minute : m.time.minute < 100 := m.time.minute_lt.trans (by decide)
  have second : m.time.second < 100 := m.time.second_lt.trans (by decide)
  have last := readNumber_twoDigits [] second
  rw [List.append_nil] at last
  simp only [moment?, Moment.clockText, readDate_toText, Option.bind_eq_bind, Option.bind_some,
    readNumber_space, readNumber_twoDigits _ hour, readMark_cons, readNumber_twoDigits _ minute,
    last, Date.ofFields?_fields, timeOfClock?_fields whole]
  rfl

/-! ## What is read is no number -/

section

variable {s rest : Text}

theorem tail_suffix_tail {t : Text} (h : t <:+ s) : t.tail <:+ s.tail := by
  obtain ⟨before, rfl⟩ := h
  cases before with
  | nil => exact List.suffix_refl _
  | cons c before => exact (List.tail_suffix t).trans (List.suffix_append before t)

theorem readDigits_suffix {n : Nat} (read : readDigits s = some (n, rest)) : rest <:+ s := by
  obtain ⟨-, ⟨⟩⟩ := Option.ite_none_left_eq_some.1 read
  exact List.dropWhile_suffix _

theorem readNumber_suffix {width n : Nat} (read : readNumber width s = some (n, rest)) :
    rest <:+ s.tail := by
  obtain ⟨nonempty, ⟨⟩⟩ := Option.ite_none_left_eq_some.1 read
  have taken := List.drop_suffix_drop_left s.dropBlank (List.length_pos_iff.2 nonempty)
  rw [List.drop_one] at taken
  exact taken.trans (tail_suffix_tail (List.dropWhile_suffix _))

theorem readYear_suffix {year : Int} (read : readYear s = some (year, rest)) : rest <:+ s.tail := by
  refine List.IsSuffix.trans ?_ (tail_suffix_tail (List.dropWhile_suffix isBlank))
  unfold readYear at read
  change rest <:+ s.dropBlank.tail
  split at read
  next r signed =>
    obtain ⟨⟨n, left⟩, digits, ⟨⟩⟩ := Option.map_eq_some_iff.1 read
    rw [signed]
    exact readDigits_suffix digits
  next r signed =>
    obtain ⟨⟨n, left⟩, digits, ⟨⟩⟩ := Option.map_eq_some_iff.1 read
    rw [signed]
    exact readDigits_suffix digits
  next =>
    obtain ⟨⟨n, left⟩, number, ⟨⟩⟩ := Option.map_eq_some_iff.1 read
    exact readNumber_suffix number

theorem mem_tail_of_readDate {fields : Int × Nat × Nat} (read : readDate s = some (fields, rest)) :
    '-' ∈ s.tail := by
  obtain ⟨⟨year, afterYear⟩, readYear, read⟩ := Option.bind_eq_some_iff.1 read
  obtain ⟨afterMark, mark, -⟩ := Option.bind_eq_some_iff.1 read
  cases afterYear with
  | nil => cases mark
  | cons c r =>
    obtain ⟨rfl, -⟩ := Option.ite_none_right_eq_some.1 mark
    exact (readYear_suffix readYear).subset List.mem_cons_self

theorem int64?_of_date? {d : Date} (read : date? s = some d) : s.int64? = none := by
  obtain ⟨⟨fields, left⟩, date, -⟩ := Option.bind_eq_some_iff.1 read
  exact Text.int64?_eq_none (mem_tail_of_readDate date) (by decide)

theorem int64?_of_moment? {m : Moment} (read : moment? s = some m) : s.int64? = none := by
  obtain ⟨⟨fields, left⟩, date, -⟩ := Option.bind_eq_some_iff.1 read
  exact Text.int64?_eq_none (mem_tail_of_readDate date) (by decide)

end

end Calendar

namespace Date

theorem mem_toText {d : Date} {c : Char} (mem : c ∈ d.toText) :
    c.isDigit = true ∨ c = '-' ∨ c = '+' := by
  have year : c ∈ yearText d.year → c.isDigit = true ∨ c = '-' ∨ c = '+' := by
    unfold yearText
    dsimp only
    intro mem
    split at mem
    · exact (List.mem_cons.1 mem).elim (fun sign => .inr (.inl sign))
        fun digit => .inl (Text.isDigit_of_mem_padLeft digit)
    · split at mem
      · exact (List.mem_cons.1 mem).elim (fun sign => .inr (.inr sign))
          fun digit => .inl (Text.isDigit_of_mem_padLeft digit)
      · exact .inl (Text.isDigit_of_mem_padLeft mem)
  simp only [toText, List.append_assoc, List.cons_append, List.mem_append, List.mem_cons] at mem
  rcases mem with mem | sign | mem | sign | mem
  · exact year mem
  · exact .inr (.inl sign)
  · exact .inl (Text.isDigit_of_mem_padLeft mem)
  · exact .inr (.inl sign)
  · exact .inl (Text.isDigit_of_mem_padLeft mem)

theorem isBlank_of_mem_toText {d : Date} {c : Char} (mem : c ∈ d.toText) : isBlank c = false := by
  rcases mem_toText mem with digit | rfl | rfl
  · exact isBlank_of_isDigit digit
  · decide
  · decide

theorem trim_toText (d : Date) : d.toText.trim = d.toText :=
  Text.trim_of_all_visible fun _ => isBlank_of_mem_toText

theorem yearText_ne_nil (year : Int) : yearText year ≠ [] := by
  unfold yearText
  dsimp only
  split
  · exact List.cons_ne_nil _ _
  · split
    · exact List.cons_ne_nil _ _
    · exact Text.padLeft_ofNat_ne_nil 4 _

theorem int64?_toText (d : Date) : d.toText.int64? = none :=
  Calendar.int64?_of_date? (Calendar.date?_toText d)

theorem toText_ne_nil (d : Date) : d.toText ≠ [] :=
  List.append_ne_nil_of_right_ne_nil _ (List.cons_ne_nil _ _)

/-! ## Signs -/

theorem isDigit_head?_yearText {year : Int} (negative : ¬year < 0) (long : ¬9999 < year) :
    ∀ c ∈ (yearText year).head?, c.isDigit = true := by
  intro c first
  rw [yearText, if_neg negative, if_neg long] at first
  exact Text.isDigit_of_mem_padLeft (List.mem_of_mem_head? first)

theorem head?_toText_iff (d : Date) :
    (d.toText.head? = some '-' ↔ d.year < 0) ∧ (d.toText.head? = some '+' ↔ 9999 < d.year) := by
  have first : d.toText.head? = (yearText d.year).head? := by
    simp only [toText, List.append_assoc, List.head?_append_of_ne_nil _ (yearText_ne_nil d.year)]
  rw [first]
  by_cases negative : d.year < 0
  · simp [yearText, negative]
    omega
  by_cases long : 9999 < d.year
  · simp [yearText, negative, long]
  · have digit := isDigit_head?_yearText negative long
    constructor
    · refine iff_of_false (fun sign => ?_) negative
      cases digit _ sign
    · refine iff_of_false (fun sign => ?_) long
      cases digit _ sign

end Date

namespace Moment

variable (m : Moment)

theorem toText_of_whole {m : Moment} (whole : m.time.nanosecond = 0) : m.toText = m.clockText := by
  simp [toText, clockText, TimeOfDay.toText, TimeOfDay.fractionText, whole]

-- There is white space in the middle, but the ends are a sign or a digit and a digit.
theorem trim_clockText : m.clockText.trim = m.clockText := by
  apply Text.trim_of_visible
  · rw [clockText, List.head?_append_of_ne_nil _ m.date.toText_ne_nil]
    exact fun c first => Date.isBlank_of_mem_toText (List.mem_of_mem_head? first)
  · have ending : m.clockText = (m.date.toText ++ ' ' :: (Date.twoDigits m.time.hour ++
        ':' :: (Date.twoDigits m.time.minute ++ [':']))) ++ Date.twoDigits m.time.second := by
      simp [clockText]
    have some : Date.twoDigits m.time.second ≠ [] := Text.padLeft_ofNat_ne_nil 2 _
    rw [ending, List.getLast?_append_of_ne_nil _ some]
    exact fun c last =>
      isBlank_of_isDigit (Text.isDigit_of_mem_padLeft (List.mem_of_mem_getLast? last))

end Moment

end SqlDialect

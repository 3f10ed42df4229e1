import Mathlib.Tactic.SplitIfs
import SqlDialect.Text.Utf8

/-! UTF-8 read and written.

A character takes one to four bytes, in the four forms of `Spells`. What is written of a character
has one of these forms, and what is read as a character has one of them, so a sequence of bytes
spells at most one text, and each text is spelled by one sequence.
-/

set_option autoImplicit false

namespace SqlDialect.Text

variable {a b : UInt8} {rest bytes : List UInt8} {n : Nat}

/-! ## Bytes -/

theorem inRange_iff {least greatest : UInt8} :
    (least ≤ a && a ≤ greatest) = true ↔ least.toNat ≤ a.toNat ∧ a.toNat ≤ greatest.toNat := by
  simp [UInt8.le_iff_toNat_le]

theorem isContinuation_iff : isContinuation b = true ↔ 0x80 ≤ b.toNat ∧ b.toNat ≤ 0xBF :=
  inRange_iff

theorem allowsSecond_iff :
    allowsSecond a b = true ↔ (0x80 ≤ b.toNat ∧ b.toNat ≤ 0xBF) ∧
      (a.toNat = 0xE0 → 0xA0 ≤ b.toNat) ∧ (a.toNat = 0xED → b.toNat ≤ 0x9F) ∧
      (a.toNat = 0xF0 → 0x90 ≤ b.toNat) ∧ (a.toNat = 0xF4 → b.toNat ≤ 0x8F) := by
  simp only [allowsSecond, beq_iff_eq, Bool.ite_eq_true_distrib, isContinuation_iff, inRange_iff,
    ← UInt8.toNat_inj, UInt8.reduceToNat]
  split_ifs <;> omega

theorem exists_byte (small : n < 0x100) : ∃ b : UInt8, b.toNat = n :=
  ⟨UInt8.ofNat n, UInt8.toNat_ofNat_of_lt' small⟩

theorem ofNat_eq (b : UInt8) (same : n = b.toNat) : UInt8.ofNat n = b := by
  rw [same, UInt8.ofNat_toNat]

/-! ## Characters -/

/-- The bytes of a character, with its number: the fewest that it fits. -/
inductive Spells : List UInt8 → Nat → Prop where
  | one {a : UInt8} (first : a.toNat < 0x80) : Spells [a] a.toNat
  | two {a b : UInt8} (first : 0xC2 ≤ a.toNat ∧ a.toNat ≤ 0xDF)
      (second : 0x80 ≤ b.toNat ∧ b.toNat ≤ 0xBF) :
      Spells [a, b] (a.toNat % 32 * 64 + b.toNat % 64)
  | three {a b c : UInt8} (first : 0xE0 ≤ a.toNat ∧ a.toNat ≤ 0xEF)
      (second : 0x80 ≤ b.toNat ∧ b.toNat ≤ 0xBF) (fewest : a.toNat = 0xE0 → 0xA0 ≤ b.toNat)
      (noSurrogate : a.toNat = 0xED → b.toNat ≤ 0x9F) (third : 0x80 ≤ c.toNat ∧ c.toNat ≤ 0xBF) :
      Spells [a, b, c] ((a.toNat % 16 * 64 + b.toNat % 64) * 64 + c.toNat % 64)
  | four {a b c d : UInt8} (first : 0xF0 ≤ a.toNat ∧ a.toNat ≤ 0xF4)
      (second : 0x80 ≤ b.toNat ∧ b.toNat ≤ 0xBF) (fewest : a.toNat = 0xF0 → 0x90 ≤ b.toNat)
      (noneBeyond : a.toNat = 0xF4 → b.toNat ≤ 0x8F) (third : 0x80 ≤ c.toNat ∧ c.toNat ≤ 0xBF)
      (fourth : 0x80 ≤ d.toNat ∧ d.toNat ≤ 0xBF) :
      Spells [a, b, c, d]
        (((a.toNat % 8 * 64 + b.toNat % 64) * 64 + c.toNat % 64) * 64 + d.toNat % 64)

theorem exists_spells (valid : n.isValidChar) : ∃ bytes, Spells bytes n := by
  unfold Nat.isValidChar at valid
  rcases Nat.lt_or_ge n 0x80 with one | more
  · obtain ⟨a, rfl⟩ : ∃ a : UInt8, a.toNat = n := exists_byte (by omega)
    exact ⟨[a], .one one⟩
  rcases Nat.lt_or_ge n 0x800 with two | more
  · obtain ⟨a, first⟩ : ∃ a : UInt8, a.toNat = 0xC0 + n / 64 := exists_byte (by omega)
    obtain ⟨b, second⟩ : ∃ b : UInt8, b.toNat = 0x80 + n % 64 := exists_byte (by omega)
    have value : a.toNat % 32 * 64 + b.toNat % 64 = n := by omega
    exact ⟨[a, b], value ▸ .two (by omega) (by omega)⟩
  rcases Nat.lt_or_ge n 0x10000 with three | more
  · obtain ⟨a, first⟩ : ∃ a : UInt8, a.toNat = 0xE0 + n / 4096 := exists_byte (by omega)
    obtain ⟨b, second⟩ : ∃ b : UInt8, b.toNat = 0x80 + n / 64 % 64 := exists_byte (by omega)
    obtain ⟨c, third⟩ : ∃ c : UInt8, c.toNat = 0x80 + n % 64 := exists_byte (by omega)
    have value : (a.toNat % 16 * 64 + b.toNat % 64) * 64 + c.toNat % 64 = n := by omega
    exact ⟨[a, b, c],
      value ▸ .three (by omega) (by omega) (by omega) (by omega) (by omega)⟩
  · obtain ⟨a, first⟩ : ∃ a : UInt8, a.toNat = 0xF0 + n / 262144 := exists_byte (by omega)
    obtain ⟨b, second⟩ : ∃ b : UInt8, b.toNat = 0x80 + n / 4096 % 64 := exists_byte (by omega)
    obtain ⟨c, third⟩ : ∃ c : UInt8, c.toNat = 0x80 + n / 64 % 64 := exists_byte (by omega)
    obtain ⟨d, fourth⟩ : ∃ d : UInt8, d.toNat = 0x80 + n % 64 := exists_byte (by omega)
    have value : ((a.toNat % 8 * 64 + b.toNat % 64) * 64 + c.toNat % 64) * 64 + d.toNat % 64 =
        n := by omega
    exact ⟨[a, b, c, d],
      value ▸ .four (by omega) (by omega) (by omega) (by omega) (by omega) (by omega)⟩

theorem spells_of_head {x : Char} {size : Nat} (read : head a rest = .char x size) :
    ∃ bytes n, Spells bytes n ∧ x = Char.ofNat n ∧ bytes ++ rest.drop (size - 1) = a :: rest := by
  revert read
  fun_cases head a rest <;> intro read <;> cases read
  next first => exact ⟨_, _, .one first, rfl, rfl⟩
  next first b _ second =>
    exact ⟨_, _, .two (inRange_iff.1 first) (isContinuation_iff.1 second), rfl, rfl⟩
  next first b second c _ third =>
    obtain ⟨goesOn, fewest, noSurrogate, -⟩ := allowsSecond_iff.1 second
    exact ⟨_, _, .three (inRange_iff.1 first) goesOn fewest noSurrogate
      (isContinuation_iff.1 third), rfl, rfl⟩
  next first b second c third d _ fourth =>
    obtain ⟨goesOn, -, -, fewest, noneBeyond⟩ := allowsSecond_iff.1 second
    exact ⟨_, _, .four (inRange_iff.1 first) goesOn fewest noneBeyond (isContinuation_iff.1 third)
      (isContinuation_iff.1 fourth), rfl, rfl⟩

namespace Spells

theorem isValidChar (spelled : Spells bytes n) : n.isValidChar := by
  unfold Nat.isValidChar
  cases spelled <;> omega

theorem toNat_ofNat (spelled : Spells bytes n) : (Char.ofNat n).toNat = n := by
  rw [Char.ofNat, dif_pos spelled.isValidChar]
  rfl

theorem charBytes_ofNat (spelled : Spells bytes n) : charBytes (Char.ofNat n) = bytes := by
  simp only [charBytes, spelled.toNat_ofNat]
  cases spelled with
  | @one a first => rw [if_pos first, UInt8.ofNat_toNat]
  | @two a b first second =>
    rw [if_neg (by omega), if_pos (by omega), ofNat_eq a (by omega), ofNat_eq b (by omega)]
  | @three a b c first second fewest noSurrogate third =>
    rw [if_neg (by omega), if_neg (by omega), if_pos (by omega), ofNat_eq a (by omega),
      ofNat_eq b (by omega), ofNat_eq c (by omega)]
  | @four a b c d first second fewest noneBeyond third fourth =>
    rw [if_neg (by omega), if_neg (by omega), if_neg (by omega), ofNat_eq a (by omega),
      ofNat_eq b (by omega), ofNat_eq c (by omega), ofNat_eq d (by omega)]

theorem head_append {more : List UInt8} (spelled : Spells (a :: more) n) (rest : List UInt8) :
    head a (more ++ rest) = .char (Char.ofNat n) (more.length + 1) := by
  simp only [head, UInt8.lt_iff_toNat_lt, inRange_iff, UInt8.reduceToNat]
  cases spelled with
  | one first => rw [if_pos first]; rfl
  | two first second =>
    rw [if_neg (by omega), if_pos first]
    exact if_pos (isContinuation_iff.2 second)
  | @three a b c first second fewest noSurrogate third =>
    have allowed : allowsSecond a b = true :=
      allowsSecond_iff.2 ⟨second, fewest, noSurrogate, by omega, by omega⟩
    rw [if_neg (by omega), if_neg (by omega), if_pos first]
    simp only [List.cons_append, List.nil_append, if_pos allowed]
    exact if_pos (isContinuation_iff.2 third)
  | @four a b c d first second fewest noneBeyond third fourth =>
    have allowed : allowsSecond a b = true :=
      allowsSecond_iff.2 ⟨second, by omega, by omega, fewest, noneBeyond⟩
    rw [if_neg (by omega), if_neg (by omega), if_neg (by omega), if_pos first]
    simp only [List.cons_append, List.nil_append, if_pos allowed,
      if_pos (isContinuation_iff.2 third)]
    exact if_pos (isContinuation_iff.2 fourth)

end Spells

theorem spells_charBytes (x : Char) : Spells (charBytes x) x.toNat := by
  obtain ⟨bytes, spelled⟩ := exists_spells x.valid
  have written := spelled.charBytes_ofNat
  rw [← Char.toNat, Char.ofNat_toNat] at written
  exact written ▸ spelled

/-! ## Texts -/

theorem ofUtf8?_eq_some_iff {s : Text} : ofUtf8? bytes = some s ↔ bytes = s.toUtf8 := by
  constructor
  · intro read
    induction bytes using ofUtf8?.induct generalizing s with
    | case1 =>
      rw [ofUtf8?] at read
      cases read
      rfl
    | case2 a rest x size found ih =>
      rw [ofUtf8?, found] at read
      obtain ⟨r, spelled, rfl⟩ := Option.map_eq_some_iff.1 read
      obtain ⟨bytes, n, ofChar, rfl, whole⟩ := spells_of_head found
      rw [← whole, ih spelled, toUtf8, toUtf8, List.flatMap_cons, ofChar.charBytes_ofNat]
    | case3 a rest size found =>
      rw [ofUtf8?, found] at read
      cases read
  · rintro rfl
    induction s with
    | nil => rw [toUtf8, List.flatMap_nil, ofUtf8?]
    | cons x s ih =>
      have spelled := spells_charBytes x
      rw [toUtf8, List.flatMap_cons, ← toUtf8]
      cases written : charBytes x with
      | nil => rw [written] at spelled; cases spelled
      | cons a more =>
        rw [written] at spelled
        rw [List.cons_append, ofUtf8?, spelled.head_append, Char.ofNat_toNat]
        simp only [Nat.add_sub_cancel, List.drop_left, ih, Option.map_some]

end SqlDialect.Text

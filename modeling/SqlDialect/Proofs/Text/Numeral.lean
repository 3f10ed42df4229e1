import Mathlib.Algebra.Group.Nat.Defs
import SqlDialect.Proofs.Text.Blank

/-! Numbers in decimal digits: what is written of a number is digits alone, which spell the number
again. -/

set_option autoImplicit false

namespace SqlDialect

theorem isBlank_of_isDigit {c : Char} (digit : c.isDigit = true) : isBlank c = false := by
  have := toNat_of_isDigit digit
  unfold isBlank
  simp
  omega

namespace Text

theorem isDigit_of_mem_ofNat {n : Nat} {c : Char} (mem : c ∈ ofNat n) : c.isDigit = true :=
  Nat.isDigit_of_mem_toDigits (by decide) (by decide) mem

theorem digitsValue_ofNat (n : Nat) : digitsValue (ofNat n) = n :=
  Nat.ofDigitChars_ten_toDigits

theorem digitsValue_append (s t : Text) :
    digitsValue (s ++ t) =
      t.foldl (fun n d => 10 * n + (d.toNat - '0'.toNat)) (digitsValue s) :=
  List.foldl_append

/-! ## Zeros in front -/

theorem digitsValue_padLeft (length : Nat) (s : Text) :
    digitsValue (padLeft '0' length s) = digitsValue s := by
  have zeros (count : Nat) : digitsValue (List.replicate count '0') = 0 := by
    induction count with
    | zero => rfl
    | succ count ih => rw [List.replicate_succ', digitsValue_append, ih]; rfl
  rw [padLeft, digitsValue_append, zeros]
  rfl

theorem isDigit_of_mem_padLeft {length n : Nat} {c : Char}
    (mem : c ∈ padLeft '0' length (ofNat n)) : c.isDigit = true := by
  rcases List.mem_append.1 mem with zero | digit
  · rw [List.eq_of_mem_replicate zero]
    rfl
  · exact isDigit_of_mem_ofNat digit

theorem padLeft_ofNat_ne_nil (length n : Nat) : padLeft '0' length (ofNat n) ≠ [] :=
  List.append_ne_nil_of_right_ne_nil _ Nat.toDigits_ne_nil

theorem length_padLeft_ofNat {length n : Nat} (positive : 0 < length) (fits : n < 10 ^ length) :
    (padLeft '0' length (ofNat n)).length = length := by
  have short : (ofNat n).length ≤ length :=
    (Nat.length_toDigits_le_iff (by decide) positive).2 fits
  simp only [padLeft, List.length_append, List.length_replicate]
  omega

/-! ## Integers -/

theorem digits_ofNat (n : Nat) : ofNat n ≠ [] ∧ (ofNat n).all Char.isDigit = true :=
  ⟨Nat.toDigits_ne_nil, List.all_eq_true.2 fun _ => isDigit_of_mem_ofNat⟩

/-- `Numeral s i`: the text spells the integer in digits, with or without a sign. -/
inductive Numeral : Text → Int → Prop where
  | unsigned {digits : Text} (nonempty : digits ≠ []) (all : digits.all Char.isDigit = true) :
      Numeral digits (digitsValue digits)
  | positive {digits : Text} (nonempty : digits ≠ []) (all : digits.all Char.isDigit = true) :
      Numeral ('+' :: digits) (digitsValue digits)
  | negative {digits : Text} (nonempty : digits ≠ []) (all : digits.all Char.isDigit = true) :
      Numeral ('-' :: digits) (-(digitsValue digits : Int))

theorem integer?_eq_some_iff {s : Text} {i : Int} : s.integer? = some i ↔ Numeral s i := by
  constructor
  · intro read
    unfold integer? at read
    dsimp only at read
    split at read
    next =>
      obtain ⟨n, digits, rfl⟩ := Option.map_eq_some_iff.1 read
      obtain ⟨⟨nonempty, all⟩, ⟨⟩⟩ := Option.ite_none_right_eq_some.1 digits
      exact .negative nonempty all
    next =>
      obtain ⟨⟨nonempty, all⟩, ⟨⟩⟩ := Option.ite_none_right_eq_some.1 read
      exact .positive nonempty all
    next =>
      obtain ⟨⟨nonempty, all⟩, ⟨⟩⟩ := Option.ite_none_right_eq_some.1 read
      exact .unsigned nonempty all
  · intro numeral
    cases numeral with
    | unsigned nonempty all =>
      unfold integer?
      dsimp only
      split
      next => cases all
      next => cases all
      next => exact if_pos ⟨nonempty, all⟩
    | positive nonempty all => exact if_pos ⟨nonempty, all⟩
    | negative nonempty all =>
      exact Option.map_eq_some_iff.2 ⟨_, if_pos ⟨nonempty, all⟩, rfl⟩

theorem numeral_ofNat (n : Nat) : Numeral (ofNat n) n := by
  have numeral := Numeral.unsigned (digits_ofNat n).1 (digits_ofNat n).2
  rwa [digitsValue_ofNat] at numeral

theorem numeral_ofInt (i : Int) : Numeral (ofInt i) i := by
  unfold ofInt
  split
  next negative =>
    have numeral := Numeral.negative (digits_ofNat i.natAbs).1 (digits_ofNat i.natAbs).2
    rwa [digitsValue_ofNat, ← Int.eq_neg_natAbs_of_nonpos (Int.le_of_lt negative)] at numeral
  next positive =>
    have numeral := numeral_ofNat i.natAbs
    rwa [Int.natAbs_of_nonneg (Int.not_lt.1 positive)] at numeral

theorem numeral_plus_ofInt {i : Int} (positive : 0 ≤ i) : Numeral ('+' :: ofInt i) i := by
  have numeral := Numeral.positive (digits_ofNat i.natAbs).1 (digits_ofNat i.natAbs).2
  rw [digitsValue_ofNat, Int.natAbs_of_nonneg positive] at numeral
  rwa [ofInt, if_neg (Int.not_lt.2 positive)]

theorem integer?_ofInt (i : Int) : integer? (ofInt i) = some i :=
  integer?_eq_some_iff.2 (numeral_ofInt i)

theorem integer?_plus_ofInt {i : Int} (positive : 0 ≤ i) : integer? ('+' :: ofInt i) = some i :=
  integer?_eq_some_iff.2 (numeral_plus_ofInt positive)

theorem Numeral.isDigit_of_mem_tail {s : Text} {i : Int} {c : Char} (numeral : Numeral s i)
    (mem : c ∈ s.tail) : c.isDigit = true := by
  cases numeral with
  | unsigned _ all => exact List.all_eq_true.1 all c (List.mem_of_mem_tail mem)
  | positive _ all | negative _ all => exact List.all_eq_true.1 all c mem

theorem int64?_of_integer? {s : Text} {i : Int64} (read : s.integer? = some i.toInt) :
    s.int64? = some i := by
  rw [int64?, read, Option.bind_some, if_pos ⟨i.minValue_le_toInt, i.toInt_le⟩, Int64.ofInt_toInt]

theorem int64?_eq_some_iff {s : Text} {i : Int64} : s.int64? = some i ↔ Numeral s i.toInt := by
  rw [← integer?_eq_some_iff]
  refine ⟨fun read => ?_, int64?_of_integer?⟩
  obtain ⟨n, integer, fits⟩ := Option.bind_eq_some_iff.1 read
  obtain ⟨⟨least, greatest⟩, ⟨⟩⟩ := Option.ite_none_right_eq_some.1 fits
  rw [integer, Int64.toInt_ofInt_of_le least (Int.lt_add_one_of_le greatest)]

theorem int64?_eq_none {s : Text} {c : Char} (mem : c ∈ s.tail) (other : c.isDigit = false) :
    s.int64? = none := by
  refine Option.eq_none_iff_forall_ne_some.2 fun i read => ?_
  rw [(int64?_eq_some_iff.1 read).isDigit_of_mem_tail mem] at other
  cases other

/-! ## White space at the ends -/

theorem trim_of_visible {s : Text} (first : ∀ c ∈ s.head?, isBlank c = false)
    (last : ∀ c ∈ s.getLast?, isBlank c = false) : s.trim = s := by
  have keeps {t : Text} (visible : ∀ c ∈ t.head?, isBlank c = false) :
      t.dropWhile isBlank = t := by
    cases t with
    | nil => rfl
    | cons c t => exact List.dropWhile_cons_of_neg (by simp [visible c rfl])
  rw [trim, dropBlank, keeps first, trimEnd, keeps, List.reverse_reverse]
  rwa [List.head?_reverse]

theorem trim_of_all_visible {s : Text} (visible : ∀ c ∈ s, isBlank c = false) : s.trim = s :=
  trim_of_visible (fun c first => visible c (List.mem_of_mem_head? first))
    fun c last => visible c (List.mem_of_mem_getLast? last)

theorem isBlank_of_mem_ofInt {i : Int} {c : Char} (mem : c ∈ ofInt i) : isBlank c = false := by
  unfold ofInt at mem
  split at mem
  · rcases List.mem_cons.1 mem with rfl | digit
    · decide
    · exact isBlank_of_isDigit (isDigit_of_mem_ofNat digit)
  · exact isBlank_of_isDigit (isDigit_of_mem_ofNat mem)

end Text

end SqlDialect

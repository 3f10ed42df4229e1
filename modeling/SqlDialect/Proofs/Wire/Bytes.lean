import Mathlib.Tactic.Linarith
import Mathlib.Tactic.Ring
import SqlDialect.Wire.Decode

/-! Numbers and their bytes.

So many bytes and the numbers that fit them are the same thing: what is written is read back, and
what is read is written as the bytes it was read from.
-/

set_option autoImplicit false

namespace SqlDialect.Wire

variable {size : Nat} {i : Int} {bytes rest : Bytes}

theorem capacity_succ (size : Nat) : capacity (size + 1) = capacity size * 256 := rfl

theorem capacity_pos (size : Nat) : 0 < capacity size := Nat.pow_pos (by decide)

theorem capacity_four : capacity 4 = 4294967296 := rfl

theorem capacity_eight : capacity 8 = 18446744073709551616 := rfl

/-! ## Numbers without sign -/

theorem foldl_bytes (n : Nat) (bytes : Bytes) :
    bytes.foldl (fun n b => 256 * n + b.toNat) n =
      n * capacity bytes.length + unsignedValue bytes := by
  unfold unsignedValue
  induction bytes generalizing n with
  | nil => simp [capacity]
  | cons b bytes ih =>
    rw [List.foldl_cons, List.foldl_cons, ih, ih (256 * 0 + b.toNat), List.length_cons,
      capacity_succ]
    ring

theorem unsignedValue_cons (b : UInt8) (bytes : Bytes) :
    unsignedValue (b :: bytes) = b.toNat * capacity bytes.length + unsignedValue bytes := by
  rw [unsignedValue, List.foldl_cons, foldl_bytes, Nat.mul_zero, Nat.zero_add]

theorem unsignedValue_lt (bytes : Bytes) : unsignedValue bytes < capacity bytes.length := by
  induction bytes with
  | nil => decide
  | cons b bytes ih =>
    have digit : (b.toNat + 1) * capacity bytes.length ≤ 256 * capacity bytes.length :=
      Nat.mul_le_mul_right _ b.toNat_lt
    rw [unsignedValue_cons, List.length_cons, capacity_succ]
    linarith

theorem unsignedValue_unsigned (size n : Nat) :
    unsignedValue (unsigned size n) = n % capacity size := by
  induction size with
  | zero => exact (Nat.mod_one n).symm
  | succ size ih =>
    rw [unsigned, unsignedValue_cons, length_unsigned, ih, capacity_succ, Nat.mod_mul,
      UInt8.toNat_ofNat']
    ring

theorem unsigned_add_mul (size n k : Nat) :
    unsigned size (n + k * capacity size) = unsigned size n := by
  induction size generalizing k with
  | zero => rfl
  | succ size ih =>
    have shifted : k * capacity (size + 1) = k * 256 * capacity size := by
      rw [capacity_succ]
      ring
    have first : UInt8.ofNat (n / capacity size + k * 256) = UInt8.ofNat (n / capacity size) := by
      rw [← UInt8.toNat_inj, UInt8.toNat_ofNat', UInt8.toNat_ofNat', Nat.add_mul_mod_self_right]
    rw [unsigned, unsigned, shifted, Nat.add_mul_div_right _ _ (capacity_pos size), first, ih]

theorem unsigned_unsignedValue (bytes : Bytes) :
    unsigned bytes.length (unsignedValue bytes) = bytes := by
  induction bytes with
  | nil => rfl
  | cons b bytes ih =>
    have first : (unsignedValue bytes + b.toNat * capacity bytes.length) / capacity bytes.length =
        b.toNat := by
      rw [Nat.add_mul_div_right _ _ (capacity_pos _), Nat.div_eq_of_lt (unsignedValue_lt bytes),
        Nat.zero_add]
    rw [List.length_cons, unsigned, unsignedValue_cons, Nat.add_comm, first, unsigned_add_mul, ih,
      UInt8.ofNat_toNat]

/-! ## Numbers with sign -/

def Fits (size : Nat) (i : Int) : Prop := -(capacity size : Int) ≤ 2 * i ∧ 2 * i < capacity size
  deriving Decidable

theorem fits_natCast {n : Nat} : Fits 4 n ↔ n < 2 ^ 31 := by
  unfold Fits
  rw [capacity_four]
  omega

theorem fits_int64 (i : Int64) : Fits 8 i.toInt := by
  have least := i.le_toInt
  have greatest := i.toInt_lt
  unfold Fits
  rw [capacity_eight]
  omega

theorem fits_int32 (i : Int32) : Fits 4 i.toInt := by
  have least := i.le_toInt
  have greatest := i.toInt_lt
  unfold Fits
  rw [capacity_four]
  omega

theorem Fits.toInt_int64 (fits : Fits 8 i) : (Int64.ofInt i).toInt = i := by
  unfold Fits at fits
  rw [capacity_eight] at fits
  exact Int64.toInt_ofInt_of_le (by omega) (by omega)

theorem Fits.toInt_int32 (fits : Fits 4 i) : (Int32.ofInt i).toInt = i := by
  unfold Fits at fits
  rw [capacity_four] at fits
  exact Int32.toInt_ofInt_of_le (by omega) (by omega)

theorem signedValue_signed (fits : Fits size i) : signedValue (signed size i) = i := by
  obtain ⟨least, greatest⟩ := fits
  have positive := capacity_pos size
  have residue : ((i % capacity size).toNat : Int) = i % capacity size :=
    Int.toNat_of_nonneg (Int.emod_nonneg i (by omega))
  have value : (unsignedValue (signed size i) : Int) = i % capacity size := by
    rw [signed, unsignedValue_unsigned, Int.natCast_emod, residue, Int.emod_emod]
  simp only [signedValue, value, length_signed]
  rcases Int.lt_or_le i 0 with negative | nonnegative
  · have wrapped : i % capacity size = i + capacity size := by
      rw [← Int.add_emod_right, Int.emod_eq_of_lt (by omega) (by omega)]
    rw [wrapped, if_neg (by omega)]
    omega
  · have same : i % capacity size = i := Int.emod_eq_of_lt nonnegative (by omega)
    rw [same, if_pos greatest]

theorem fits_signedValue (bytes : Bytes) : Fits bytes.length (signedValue bytes) := by
  have := unsignedValue_lt bytes
  unfold Fits signedValue
  dsimp only
  split <;> omega

theorem signed_signedValue (bytes : Bytes) : signed bytes.length (signedValue bytes) = bytes := by
  have small := unsignedValue_lt bytes
  have residue : signedValue bytes % capacity bytes.length = unsignedValue bytes := by
    unfold signedValue
    dsimp only
    split
    next => exact Int.emod_eq_of_lt (by omega) (by omega)
    next => rw [Int.sub_emod_right, Int.emod_eq_of_lt (by omega) (by omega)]
  rw [signed, residue, Int.toNat_natCast, unsigned_unsignedValue]

theorem exists_signed (long : bytes.length = size) : ∃ i, Fits size i ∧ bytes = signed size i :=
  ⟨signedValue bytes, long ▸ fits_signedValue bytes, by rw [← long, signed_signedValue]⟩

theorem exists_signed_append (size more : Nat) (long : bytes.length = size + more) :
    ∃ i rest, Fits size i ∧ bytes = signed size i ++ rest ∧ rest.length = more := by
  have enough : size ≤ bytes.length := long ▸ Nat.le_add_right size more
  obtain ⟨i, fits, same⟩ := exists_signed (List.length_take_of_le enough)
  exact ⟨i, bytes.drop size, fits, by rw [← same, List.take_append_drop], by simp [long]⟩

theorem exactSigned?_eq_some_iff :
    exactSigned? size bytes = some i ↔ Fits size i ∧ bytes = signed size i := by
  unfold exactSigned?
  constructor
  · intro read
    split at read
    next long =>
      cases read
      subst long
      exact ⟨fits_signedValue bytes, (signed_signedValue bytes).symm⟩
    next => cases read
  · rintro ⟨fits, rfl⟩
    rw [if_pos (length_signed size i), signedValue_signed fits]

/-! ## The bytes at the head -/

theorem take?_eq_some_iff {head : Bytes} :
    take? size bytes = some (head, rest) ↔ head.length = size ∧ bytes = head ++ rest := by
  unfold take?
  constructor
  · intro read
    split at read
    next => cases read
    next enough =>
      cases read
      exact ⟨List.length_take_of_le (Nat.not_lt.1 enough), (List.take_append_drop size bytes).symm⟩
  · rintro ⟨rfl, rfl⟩
    rw [if_neg (by simp), List.take_left, List.drop_left]

theorem readSigned?_eq_some_iff :
    readSigned? size bytes = some (i, rest) ↔ Fits size i ∧ bytes = signed size i ++ rest := by
  simp only [readSigned?, Option.map_eq_some_iff, Prod.exists, Prod.mk.injEq, take?_eq_some_iff]
  constructor
  · rintro ⟨head, _, ⟨rfl, rfl⟩, rfl, rfl⟩
    exact ⟨fits_signedValue head, by rw [signed_signedValue]⟩
  · rintro ⟨fits, rfl⟩
    exact ⟨signed size i, rest, ⟨length_signed size i, rfl⟩, signedValue_signed fits, rfl⟩

end SqlDialect.Wire

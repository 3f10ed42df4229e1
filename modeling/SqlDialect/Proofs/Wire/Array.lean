import Mathlib.Data.List.Forall2
import Mathlib.Tactic.Lift
import SqlDialect.Proofs.Wire.Bytes

/-! The bytes of arrays.

An array is read from bytes of one form only: at most one dimension, and no element missing. What
the bytes say besides, of missing elements, of the type of the elements and of the number of the
first, is not looked at.
-/

set_option autoImplicit false

namespace SqlDialect.Wire

variable {α : Type} {item : Bytes → Option α} {bytes rest : Bytes}

theorem readElements_eq_some_iff {count : Nat} {cells : List α} :
    readElements item count bytes = some cells ↔
      ∃ pieces : List Bytes, pieces.length = count ∧ (∀ piece ∈ pieces, Fits 4 piece.length) ∧
        bytes = (pieces.map some).flatMap encodeElement ∧
        List.Forall₂ (fun piece cell => item piece = some cell) pieces cells := by
  induction count generalizing bytes cells with
  | zero =>
    simp only [readElements, List.length_eq_zero_iff]
    constructor
    · intro read
      split at read
      next nothing =>
        cases read
        exact ⟨[], rfl, by simp, nothing, .nil⟩
      next => cases read
    · rintro ⟨_, rfl, -, rfl, same⟩
      cases same
      rfl
  | succ count ih =>
    simp only [readElements, Option.bind_eq_bind, Option.bind_eq_some_iff, Prod.exists,
      readSigned?_eq_some_iff]
    constructor
    · rintro ⟨length, after, ⟨fits, rfl⟩, read⟩
      split at read
      next => cases read
      next nonnegative =>
        simp only [Option.bind_eq_some_iff, Prod.exists, take?_eq_some_iff, pure,
          Option.some.injEq] at read
        obtain ⟨piece, _, ⟨long, rfl⟩, cell, same, cells, tail, rfl⟩ := read
        obtain ⟨pieces, rfl, sizes, rfl, each⟩ := ih.1 tail
        have size : length = piece.length := by omega
        subst size
        exact ⟨piece :: pieces, rfl, List.forall_mem_cons.2 ⟨fits, sizes⟩, by simp [encodeElement],
          .cons same each⟩
    · rintro ⟨pieces, long, sizes, rfl, each⟩
      cases each with
      | nil => cases long
      | @cons piece cell pieces cells same each =>
        obtain ⟨fits, sizes⟩ := List.forall_mem_cons.1 sizes
        have tail := ih.2 ⟨pieces, Nat.succ.inj long, sizes, rfl, each⟩
        refine ⟨piece.length, piece ++ (pieces.map some).flatMap encodeElement, ⟨fits, ?_⟩, ?_⟩
        · simp [encodeElement]
        · have taken : take? piece.length (piece ++ (pieces.map some).flatMap encodeElement) =
              some (piece, (pieces.map some).flatMap encodeElement) :=
            take?_eq_some_iff.2 ⟨rfl, rfl⟩
          rw [if_neg (by omega), Int.toNat_natCast, taken]
          simp [same, tail]

/-- The bytes of an array of at most one dimension with no element missing, whatever they say of
missing elements, of the type of the elements and of the number of the first. -/
inductive SpellsItems (item : Bytes → α → Prop) : Bytes → List α → Prop where
  | noDimension {missing element : Bytes} (missing_length : missing.length = 4)
      (element_length : element.length = 4) :
      SpellsItems item (signed 4 0 ++ (missing ++ element)) []
  | oneDimension {missing element first : Bytes} {pieces : List Bytes} {cells : List α}
      (missing_length : missing.length = 4) (element_length : element.length = 4)
      (first_length : first.length = 4) (count : Fits 4 pieces.length)
      (sizes : ∀ piece ∈ pieces, Fits 4 piece.length) (each : List.Forall₂ item pieces cells) :
      SpellsItems item
        (signed 4 1 ++ (missing ++ (element ++ (signed 4 pieces.length ++
          (first ++ (pieces.map some).flatMap encodeElement))))) cells

theorem readDimensions_one_eq_some_iff {lengths : List Nat} :
    readDimensions 1 bytes = some (lengths, rest) ↔
      ∃ (length : Nat) (first : Bytes), Fits 4 length ∧ first.length = 4 ∧ lengths = [length] ∧
        bytes = signed 4 length ++ (first ++ rest) := by
  simp only [readDimensions, Option.bind_eq_bind, Option.bind_eq_some_iff, Prod.exists,
    readSigned?_eq_some_iff]
  constructor
  · rintro ⟨length, _, ⟨fits, rfl⟩, read⟩
    split at read
    next => cases read
    next nonnegative =>
      lift length to Nat using Int.not_lt.1 nonnegative
      simp only [Option.bind_eq_some_iff, Prod.exists, readSigned?_eq_some_iff, pure,
        Option.some.injEq, Prod.mk.injEq] at read
      obtain ⟨first, _, ⟨-, rfl⟩, _, _, ⟨rfl, rfl⟩, rfl, rfl⟩ := read
      exact ⟨length, signed 4 first, fits, length_signed 4 first, rfl, rfl⟩
  · rintro ⟨length, first, fits, first_length, rfl, rfl⟩
    obtain ⟨i, fitsFirst, rfl⟩ := exists_signed first_length
    refine ⟨length, signed 4 i ++ rest, ⟨fits, rfl⟩, ?_⟩
    rw [if_neg (by omega), readSigned?_eq_some_iff.2 ⟨fitsFirst, rfl⟩]
    rfl

theorem decodeArray_eq_some_iff {cells : List α} :
    decodeArray item bytes = some cells ↔
      SpellsItems (fun piece cell => item piece = some cell) bytes cells := by
  simp only [decodeArray, Option.bind_eq_bind, Option.bind_eq_some_iff, Prod.exists,
    readSigned?_eq_some_iff, take?_eq_some_iff]
  constructor
  · rintro ⟨dimensions, _, ⟨fits, rfl⟩, missing, _, ⟨-, rfl⟩, element, after,
      ⟨element_length, rfl⟩, read⟩
    split at read
    next => cases read
    next few =>
      obtain rfl | rfl : dimensions = 0 ∨ dimensions = 1 := by omega
      · obtain ⟨pieces, none, -, rfl, each⟩ := readElements_eq_some_iff.1 read
        cases List.length_eq_zero_iff.1 none
        cases each
        simpa using SpellsItems.noDimension (length_signed 4 missing) element_length
      · simp only [Int.toNat_one, Option.bind_eq_some_iff, Prod.exists,
          readDimensions_one_eq_some_iff, readElements_eq_some_iff] at read
        obtain ⟨_, _, ⟨_, first, count, first_length, rfl, rfl⟩, pieces, rfl, sizes, rfl, each⟩ :=
          read
        exact .oneDimension (length_signed 4 missing) element_length first_length count sizes each
  · intro spelled
    cases spelled with
    | noDimension missing_length element_length =>
      obtain ⟨i, fits, rfl⟩ := exists_signed missing_length
      refine ⟨0, _, ⟨by decide, rfl⟩, i, _, ⟨fits, rfl⟩, _, [], ⟨element_length, by simp⟩, rfl⟩
    | oneDimension missing_length element_length first_length count sizes each =>
      obtain ⟨i, fits, rfl⟩ := exists_signed missing_length
      refine ⟨1, _, ⟨by decide, rfl⟩, i, _, ⟨fits, rfl⟩, _, _, ⟨element_length, rfl⟩, ?_⟩
      rw [if_neg (by omega)]
      exact Option.bind_eq_some_iff.2
        ⟨_, readDimensions_one_eq_some_iff.2 ⟨_, _, count, first_length, rfl, rfl⟩,
          readElements_eq_some_iff.2 ⟨_, rfl, sizes, rfl, each⟩⟩

end SqlDialect.Wire

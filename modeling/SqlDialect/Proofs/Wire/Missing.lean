import SqlDialect.Proofs.Wire.Form

/-! Cells that are read as missing.

A server says of a value that it is missing by sending no bytes. Bytes that are not of the form in
which the values of their type are read give a missing cell too, as do all bytes of a type that is
read in no form, and nothing tells them from the former.
-/

set_option autoImplicit false

namespace SqlDialect.Wire

variable {form : Form} {type : ValueType} {bytes : Bytes} {c : Cell}

theorem eq_null_of_isNull (missing : c.isNull = true) : c = .null := by
  cases c with
  | null => rfl
  | _ => cases missing

theorem SpellsInt.ne_null {size : Nat} (spelled : SpellsInt size bytes c) : c ≠ .null := by
  cases spelled
  nofun

theorem SpellsText.ne_null (spelled : SpellsText bytes c) : c ≠ .null := by
  cases spelled
  nofun

theorem Form.Spells.ne_null (spelled : form.Spells bytes c) : c ≠ .null := by
  cases spelled with
  | int spelled => exact spelled.ne_null
  | text spelled => exact spelled.ne_null
  | versionedText spelled => exact spelled.ne_null
  | _ => nofun

/-- Bytes from which a cell of a type is read: they are of the form in which its values are
read. -/
def Legible (type : ValueType) (bytes : Bytes) : Prop :=
  ∃ form c, type.form? = some form ∧ form.Spells bytes c

theorem legible_iff : Legible type bytes ↔ ∃ c, decode? type bytes = some c := by
  simp only [Legible, decode?, Option.bind_eq_some_iff, Form.decode?_eq_some_iff]
  exact exists_comm

theorem decode?_ne_null : decode? type bytes ≠ some .null := by
  intro read
  obtain ⟨form, -, read⟩ := Option.bind_eq_some_iff.1 read
  exact (Form.decode?_eq_some_iff.1 read).ne_null rfl

/-- A cell is read as missing just if the server sends no bytes for it, or bytes that are not
legible. -/
theorem decode_eq_null_iff (type : ValueType) (column : Option Bytes) :
    decode type column = .null ↔
      column = none ∨ ∃ bytes, column = some bytes ∧ ¬Legible type bytes := by
  cases column with
  | none => simp [decode]
  | some bytes =>
    simp only [decode, Option.bind_some, legible_iff]
    cases read : decode? type bytes with
    | none => simp [read]
    | some c =>
      have present : c ≠ .null := fun missing => decode?_ne_null (missing ▸ read)
      simp [read, present]

/-- The label of an enumeration, a document, and an array as it is sent with a missing element, are
all read as missing. -/
theorem decode_present_eq_null :
    decode (.custom "mood") (some (Text.toUtf8 "sad")) = .null ∧
      (∃ type, ValueType.builtin? 142 = some type ∧
        decode type (some (Text.toUtf8 "<a/>")) = .null) ∧
      ∃ type sent, ValueType.builtin? ValueType.int4Array = some type ∧
        encode type (.array [.int 1, .null]) = .ok (some sent) ∧
        decode type (some sent) = .null := by
  refine ⟨eq_null_of_isNull (by decide +kernel), ⟨⟨142, "xml", none⟩, by decide,
    eq_null_of_isNull (by decide +kernel)⟩, ⟨1007, "_int4", some ⟨23, "int4"⟩⟩,
    [0, 0, 0, 1, 0, 0, 0, 1, 0, 0, 0, 23, 0, 0, 0, 2, 0, 0, 0, 1, 0, 0, 0, 4, 0, 0, 0, 1,
      255, 255, 255, 255], by decide, by decide +kernel, eq_null_of_isNull (by decide +kernel)⟩

end SqlDialect.Wire

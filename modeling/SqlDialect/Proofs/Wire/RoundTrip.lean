import SqlDialect.Proofs.Except
import SqlDialect.Proofs.Wire.Form

/-! Cells sent to a server and read back.

What a cell is sent as depends on the cell and on its type, what bytes are read as on the type
alone. For the types here the bytes sent are of the form that is read, so the cell comes back,
unless an integer is too large or too small for the type, and then nothing is sent.
-/

set_option autoImplicit false

namespace SqlDialect.Wire

variable {type : ValueType} {element : PlainType} {oid size : Nat} {i : Int64} {c : Cell}

def integerSizes : List (Nat × Nat) :=
  [(PlainType.int2, 2), (PlainType.int4, 4), (PlainType.int8, 8)]

/-- `Carried oid c`: a column of the type with this number holds the cell. -/
inductive Carried : Nat → Cell → Prop where
  | bool (b : Bool) : Carried PlainType.bool (.bool b)
  | int {oid size : Nat} (sized : (oid, size) ∈ integerSizes) (i : Int64) : Carried oid (.int i)
  | text {oid : Nat} (listed : oid ∈ [PlainType.text, PlainType.varchar]) (s : Text) :
      Carried oid (.text s)
  | bytes (b : Bytes) : Carried PlainType.bytea (.bytes b)
  | date (d : Date) : Carried PlainType.date (.date d)
  | datetime {m : Moment} (whole : m.WholeMicroseconds) :
      Carried PlainType.timestamp (.datetime m)
  | timestamp {m : Moment} (whole : m.WholeMicroseconds) :
      Carried PlainType.timestamptz (.timestamp m)
  | ints {oid : Nat} (listed : oid ∈ [ValueType.int4Array, ValueType.int8Array])
      {items : List Int64} (short : items.length < 2 ^ 31) : Carried oid (.array (items.map .int))
  | texts {oid : Nat} (listed : oid ∈ [ValueType.textArray, ValueType.varcharArray])
      {items : List Text} (short : items.length < 2 ^ 31)
      (sizes : ∀ s ∈ items, s.toUtf8.length < 2 ^ 31) : Carried oid (.array (items.map .text))

/-- `Overflows type c`: the cell is, or holds, an integer that does not fit the type. -/
inductive Overflows (type : ValueType) : Cell → Prop where
  | int {size : Nat} {i : Int64} (sized : (type.oid, size) ∈ integerSizes)
      (outside : ¬Fits size i.toInt) : Overflows type (.int i)
  | array {element : PlainType} {size : Nat} {items : List Cell} {i : Int64}
      (of : type.element = some element) (sized : (element.oid, size) ∈ integerSizes)
      (mem : .int i ∈ items) (outside : ¬Fits size i.toInt) : Overflows type (.array items)

/-! ## Integers -/

theorem spellsInt_toInt (fits : Fits size i.toInt) :
    SpellsInt size (signed size i.toInt) (.int i) := by
  simpa using SpellsInt.int fits

theorem narrow_eq_ok {i : Int} (fits : Fits size i) : narrow size i = .ok (signed size i) := by
  obtain ⟨least, greatest⟩ := fits
  rw [narrow, if_neg (by omega), if_neg (by omega)]

theorem exists_narrow_eq_error {i : Int} (outside : ¬Fits size i) :
    ∃ cause, narrow size i = .error cause := by
  unfold Fits at outside
  unfold narrow
  split
  next => exact ⟨_, rfl⟩
  next =>
    rw [if_pos (by omega)]
    exact ⟨_, rfl⟩

theorem mem_integerSizes :
    (oid, size) ∈ integerSizes ↔
      oid = PlainType.int2 ∧ size = 2 ∨ oid = PlainType.int4 ∧ size = 4 ∨
        oid = PlainType.int8 ∧ size = 8 := by
  simp [integerSizes]

theorem size_unique {size' : Nat} (sized : (oid, size) ∈ integerSizes)
    (sized' : (oid, size') ∈ integerSizes) : size = size' := by
  rw [mem_integerSizes] at sized sized'
  unfold PlainType.int2 PlainType.int4 PlainType.int8 at sized sized'
  omega

theorem size_le (sized : (oid, size) ∈ integerSizes) : size ≤ 8 := by
  rw [mem_integerSizes] at sized
  omega

theorem encodePlain_int (element : PlainType) (sized : (element.oid, size) ∈ integerSizes)
    (fits : Fits size i.toInt) :
    encodePlain element (.int i) = .ok (some (signed size i.toInt)) := by
  unfold encodePlain
  obtain ⟨named, rfl⟩ | ⟨named, rfl⟩ | ⟨named, rfl⟩ := mem_integerSizes.1 sized <;> rw [named]
  · exact congrArg (Except.map some) (narrow_eq_ok fits)
  · exact congrArg (Except.map some) (narrow_eq_ok fits)
  · rfl

theorem exists_encodePlain_int_error (element : PlainType)
    (sized : (element.oid, size) ∈ integerSizes) (outside : ¬Fits size i.toInt) :
    ∃ cause, encodePlain element (.int i) = .error cause := by
  unfold encodePlain
  obtain ⟨cause, refused⟩ := exists_narrow_eq_error outside
  obtain ⟨named, rfl⟩ | ⟨named, rfl⟩ | ⟨named, rfl⟩ := mem_integerSizes.1 sized <;> rw [named]
  · exact ⟨cause, congrArg (Except.map some) refused⟩
  · exact ⟨cause, congrArg (Except.map some) refused⟩
  · exact absurd (fits_int64 i) outside

/-! ## Arrays -/

theorem exists_encode_array {β : Type} {item : Bytes → Cell → Prop} {cell : β → Cell}
    {piece : β → Bytes} {items : List β} (of : type.element = some element)
    (short : items.length < 2 ^ 31)
    (sent : ∀ b ∈ items, encodePlain element (cell b) = .ok (some (piece b)))
    (sizes : ∀ b ∈ items, (piece b).length < 2 ^ 31)
    (spelled : ∀ b ∈ items, item (piece b) (cell b)) :
    ∃ bytes, encode type (.array (items.map cell)) = .ok (some bytes) ∧
      SpellsItems item bytes (items.map cell) := by
  have all : (items.map cell).mapM (encodePlain element) = .ok ((items.map piece).map some) := by
    refine mapM_eq_ok ?_
    simpa only [List.forall₂_map_left_iff, List.forall₂_map_right_iff, List.forall₂_same] using sent
  have each : List.Forall₂ item (items.map piece) (items.map cell) := by
    simpa only [List.forall₂_map_left_iff, List.forall₂_map_right_iff, List.forall₂_same]
      using spelled
  have array := SpellsItems.oneDimension (length_signed 4 0) (length_unsigned 4 element.oid)
    (length_signed 4 (lowerBound type)) (fits_natCast.2 (by simpa using short))
    (List.forall_mem_map.2 fun b mem => fits_natCast.2 (sizes b mem)) each
  refine ⟨encodeArray (lowerBound type) element ((items.map piece).map some), ?_, ?_⟩
  · simp only [encode, of, all]
    rfl
  · simpa [encodeArray] using array

theorem exists_encode_array_error {cells : List Cell} {cause : Unsendable}
    (of : type.element = some element) (mem : c ∈ cells)
    (refused : encodePlain element c = .error cause) :
    ∃ cause, encode type (.array cells) = .error cause := by
  obtain ⟨cause, refused⟩ := exists_mapM_eq_error mem refused
  refine ⟨cause, ?_⟩
  simp only [encode, of, refused]
  rfl

/-! ## Cells -/

/-- What becomes of a cell that is sent: it overflows and is refused, or it is sent as bytes that
are read as the same cell. -/
inductive Conveyed (type : ValueType) (c : Cell) : Prop where
  | refused {cause : Unsendable} (outside : Overflows type c)
      (refused : encode type c = .error cause) : Conveyed type c
  | sent {form : Form} {bytes : Bytes} (inside : ¬Overflows type c)
      (sent : encode type c = .ok (some bytes)) (read : type.form? = some form)
      (spelled : form.Spells bytes c) : Conveyed type c

theorem encodeMoment_eq (m : Moment) : encodeMoment m = .ok (signed 8 (momentMicroseconds m)) := by
  obtain ⟨least, greatest⟩ := fits_momentMicroseconds m
  exact if_neg (by omega)

theorem encodePlain_text (element : PlainType)
    (unversioned : versionedText.contains element.name = false) (s : Text) :
    encodePlain element (.text s) = .ok (some s.toUtf8) := by
  simp only [encodePlain, unversioned]
  rfl

namespace Conveyed

theorem int (sized : (type.oid, size) ∈ integerSizes) (read : type.form? = some (.int size))
    (i : Int64) : Conveyed type (.int i) := by
  by_cases fits : Fits size i.toInt
  · refine .sent ?_ (encodePlain_int ⟨type.oid, type.name⟩ sized fits) read ?_
    · rintro ⟨sized', outside⟩
      exact outside (size_unique sized sized' ▸ fits)
    · exact .int (spellsInt_toInt fits)
  · obtain ⟨cause, refused⟩ := exists_encodePlain_int_error ⟨type.oid, type.name⟩ sized fits
    exact .refused (.int sized fits) refused

theorem ints (of : type.element = some element) (sized : (element.oid, size) ∈ integerSizes)
    (read : type.form? = some (.ints size)) {items : List Int64} (short : items.length < 2 ^ 31) :
    Conveyed type (.array (items.map .int)) := by
  by_cases fits : ∀ i ∈ items, Fits size i.toInt
  · have few := size_le sized
    obtain ⟨bytes, sent, spelled⟩ := exists_encode_array of short
      (fun i mem => encodePlain_int element sized (fits i mem))
      (fun i _ => by rw [length_signed]; omega) (fun i mem => spellsInt_toInt (fits i mem))
    refine .sent ?_ sent read (.ints spelled)
    rintro (_ | ⟨of', sized', mem, outside⟩)
    cases of.symm.trans of'
    obtain ⟨_, mem, ⟨⟩⟩ := List.mem_map.1 mem
    exact outside (size_unique sized sized' ▸ fits _ mem)
  · simp only [not_forall] at fits
    obtain ⟨i, mem, outside⟩ := fits
    have mem : .int i ∈ items.map Cell.int := List.mem_map_of_mem mem
    obtain ⟨cause, refused⟩ := exists_encodePlain_int_error element sized outside
    obtain ⟨cause, refused⟩ := exists_encode_array_error of mem refused
    exact .refused (.array of sized mem outside) refused

theorem texts (of : type.element = some element)
    (unversioned : versionedText.contains element.name = false)
    (read : type.form? = some .texts) {items : List Text} (short : items.length < 2 ^ 31)
    (sizes : ∀ s ∈ items, s.toUtf8.length < 2 ^ 31) :
    Conveyed type (.array (items.map .text)) := by
  obtain ⟨bytes, sent, spelled⟩ := exists_encode_array of short
    (fun s _ => encodePlain_text element unversioned s) sizes (fun s _ => SpellsText.text s)
  refine .sent ?_ sent read (.texts spelled)
  rintro (_ | ⟨_, _, mem, _⟩)
  obtain ⟨_, -, ⟨⟩⟩ := List.mem_map.1 mem

end Conveyed

theorem Carried.conveyed (known : ValueType.builtin? oid = some type) (carried : Carried oid c) :
    Conveyed type c := by
  cases carried with
  | bool b =>
    cases known
    refine .sent nofun rfl rfl ?_
    cases b
    · exact .bool 0
    · exact .bool 1
  | int sized i =>
    obtain ⟨rfl, rfl⟩ | ⟨rfl, rfl⟩ | ⟨rfl, rfl⟩ := mem_integerSizes.1 sized <;> cases known <;>
      exact .int sized rfl i
  | text listed s =>
    simp only [List.mem_cons, List.not_mem_nil, or_false] at listed
    obtain rfl | rfl := listed <;> cases known
    · exact .sent nofun (encodePlain_text ⟨25, "text"⟩ (by decide) s) rfl (.text (.text s))
    · exact .sent nofun (encodePlain_text ⟨1043, "varchar"⟩ (by decide) s) rfl (.text (.text s))
  | bytes b =>
    cases known
    exact .sent nofun rfl rfl (.bytes b)
  | date d =>
    cases known
    exact .sent nofun rfl rfl (.date d)
  | datetime whole =>
    cases known
    exact .sent nofun (congrArg (Except.map some) (encodeMoment_eq _)) rfl (.datetime whole)
  | timestamp whole =>
    cases known
    exact .sent nofun (congrArg (Except.map some) (encodeMoment_eq _)) rfl (.timestamp whole)
  | ints listed short =>
    simp only [List.mem_cons, List.not_mem_nil, or_false] at listed
    obtain rfl | rfl := listed <;> cases known
    · exact .ints rfl (mem_integerSizes.2 (.inr (.inl ⟨rfl, rfl⟩))) rfl short
    · exact .ints rfl (mem_integerSizes.2 (.inr (.inr ⟨rfl, rfl⟩))) rfl short
  | texts listed short sizes =>
    simp only [List.mem_cons, List.not_mem_nil, or_false] at listed
    obtain rfl | rfl := listed <;> cases known
    · exact .texts rfl (by decide) rfl short sizes
    · exact .texts rfl (by decide) rfl short sizes

/-- Of a carried cell, a server is sent bytes from which the cell is read back, and nothing just if
an integer of it does not fit the type. -/
theorem Carried.decode_encode (known : ValueType.builtin? oid = some type)
    (carried : Carried oid c) :
    ((∃ cause, encode type c = .error cause) ↔ Overflows type c) ∧
      ∀ sent, encode type c = .ok sent → ∃ bytes, sent = some bytes ∧ decode type sent = c := by
  cases carried.conveyed known with
  | refused outside refused =>
    refine ⟨iff_of_true ⟨_, refused⟩ outside, fun sent same => ?_⟩
    rw [refused] at same
    cases same
  | @sent form bytes inside sent read spelled =>
    constructor
    · refine iff_of_false ?_ inside
      rintro ⟨cause, refused⟩
      rw [sent] at refused
      cases refused
    · intro _ same
      rw [sent] at same
      cases same
      refine ⟨bytes, rfl, ?_⟩
      simp only [decode, decode?, read, Option.bind_some, Form.decode?_eq_some_iff.2 spelled,
        Option.getD_some]

/-- An array of the least and the greatest integers of four bytes. -/
theorem Carried.decode_encode_extremes :
    let type : ValueType := ⟨1007, "_int4", some ⟨23, "int4"⟩⟩
    let c : Cell := .array ([-2147483648, 2147483647].map .int)
    ValueType.builtin? ValueType.int4Array = some type ∧ Carried ValueType.int4Array c ∧
      ((∃ cause, encode type c = .error cause) ↔ Overflows type c) ∧
      ∀ sent, encode type c = .ok sent → ∃ bytes, sent = some bytes ∧ decode type sent = c := by
  intro type c
  have known : ValueType.builtin? ValueType.int4Array = some type := by decide
  have carried : Carried ValueType.int4Array c := .ints (by decide) (by decide)
  exact ⟨known, carried, carried.decode_encode known⟩

end SqlDialect.Wire

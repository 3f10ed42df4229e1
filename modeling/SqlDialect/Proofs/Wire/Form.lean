import SqlDialect.Proofs.Text.Utf8
import SqlDialect.Proofs.Wire.Array
import SqlDialect.Proofs.Wire.Calendar

/-! What the bytes of a server spell.

For each form in which a value is read, `Form.Spells` says which bytes are of this form and which
cell they stand for. They are the bytes that are read in the form, and the cell is what is read.
-/

set_option autoImplicit false

namespace SqlDialect.Wire

variable {size : Nat} {bytes rest : Bytes} {c : Cell}

inductive SpellsInt (size : Nat) : Bytes → Cell → Prop where
  | int {i : Int} (fits : Fits size i) : SpellsInt size (signed size i) (.int (Int64.ofInt i))

inductive SpellsText : Bytes → Cell → Prop where
  | text (s : Text) : SpellsText s.toUtf8 (.text s)

inductive SpellsJson : Bytes → Json → Prop where
  | json {s : Text} {j : Json} (parsed : Json.parse s = .ok j) : SpellsJson s.toUtf8 j

/-- The bytes of a form, each with the cell that they stand for. -/
inductive Form.Spells : Form → Bytes → Cell → Prop where
  | bool (b : UInt8) : Spells .bool [b] (.bool (b != 0))
  | int {size : Nat} {bytes : Bytes} {c : Cell} (spelled : SpellsInt size bytes c) :
      Spells (.int size) bytes c
  | float4 (bits : UInt32) :
      Spells .float4 (unsigned 4 bits.toNat) (.float (Float32.ofBits bits).toFloat)
  | float8 (bits : UInt64) : Spells .float8 (unsigned 8 bits.toNat) (.float (Float.ofBits bits))
  | bytes (b : Bytes) : Spells .bytes b (.bytes b)
  | date (d : Date) : Spells .date (signed 4 (d.dayNumber - serverEpochDay)) (.date d)
  | datetime {m : Moment} (whole : m.WholeMicroseconds) :
      Spells .datetime (signed 8 (momentMicroseconds m)) (.datetime m)
  | timestamp {m : Moment} (whole : m.WholeMicroseconds) :
      Spells .timestamp (signed 8 (momentMicroseconds m)) (.timestamp m)
  | interval {microseconds days months : Int} {length : Interval} (fitsTime : Fits 8 microseconds)
      (fitsDays : Fits 4 days) (fitsMonths : Fits 4 months)
      (total : length.nanoseconds = intervalNanoseconds microseconds days months) :
      Spells .interval (signed 8 microseconds ++ (signed 4 days ++ signed 4 months))
        (.interval length)
  | json {bytes : Bytes} {j : Json} (spelled : SpellsJson bytes j) : Spells .json bytes (.json j)
  | jsonb {bytes : Bytes} {j : Json} (spelled : SpellsJson bytes j) :
      Spells .jsonb (1 :: bytes) (.json j)
  | ints {size : Nat} {bytes : Bytes} {cells : List Cell}
      (spelled : SpellsItems (SpellsInt size) bytes cells) :
      Spells (.ints size) bytes (.array cells)
  | texts {bytes : Bytes} {cells : List Cell} (spelled : SpellsItems SpellsText bytes cells) :
      Spells .texts bytes (.array cells)
  | text {bytes : Bytes} {c : Cell} (spelled : SpellsText bytes c) : Spells .text bytes c
  | versionedText {bytes : Bytes} {c : Cell} (spelled : SpellsText bytes c) :
      Spells .versionedText (1 :: bytes) c

theorem decodeInt_eq_some_iff : decodeInt size bytes = some c ↔ SpellsInt size bytes c := by
  simp only [decodeInt, Option.map_eq_some_iff, exactSigned?_eq_some_iff]
  constructor
  · rintro ⟨i, ⟨fits, rfl⟩, rfl⟩
    exact .int fits
  · rintro ⟨fits⟩
    exact ⟨_, ⟨fits, rfl⟩, rfl⟩

theorem decodeText_eq_some_iff : decodeText bytes = some c ↔ SpellsText bytes c := by
  simp only [decodeText, Option.map_eq_some_iff, Text.ofUtf8?_eq_some_iff]
  constructor
  · rintro ⟨s, rfl, rfl⟩
    exact .text s
  · rintro ⟨s⟩
    exact ⟨s, rfl, rfl⟩

theorem decodeJson_eq_some_iff {j : Json} : decodeJson bytes = some j ↔ SpellsJson bytes j := by
  simp only [decodeJson, Option.bind_eq_some_iff, Text.ofUtf8?_eq_some_iff]
  constructor
  · rintro ⟨s, rfl, read⟩
    cases parsed : Json.parse s with
    | error => rw [parsed] at read; cases read
    | ok =>
      rw [parsed] at read
      cases read
      exact .json parsed
  · rintro ⟨parsed⟩
    exact ⟨_, rfl, by rw [parsed]; rfl⟩

theorem afterVersion?_eq_some_iff : afterVersion? bytes = some rest ↔ bytes = 1 :: rest := by
  unfold afterVersion?
  split
  next => simp
  next other =>
    constructor
    · nofun
    · rintro rfl
      exact absurd rfl (other rest)

namespace Form

variable {form : Form}

theorem word_eq_some_iff {ω : Type} {ofNat : Nat → ω} {toNat : ω → Nat} (f : ω → Cell)
    (toNat_lt : ∀ w, toNat w < capacity size)
    (toNat_ofNat : ∀ n < capacity size, toNat (ofNat n) = n)
    (ofNat_toNat : ∀ w, ofNat (toNat w) = w) :
    (if bytes.length = size then some (f (ofNat (unsignedValue bytes))) else none) = some c ↔
      ∃ w, bytes = unsigned size (toNat w) ∧ f w = c := by
  constructor
  · intro read
    split at read
    next long =>
      cases read
      have small : unsignedValue bytes < capacity size := long ▸ unsignedValue_lt bytes
      exact ⟨_, by rw [toNat_ofNat _ small, ← long, unsigned_unsignedValue], rfl⟩
    next => cases read
  · rintro ⟨w, rfl, rfl⟩
    rw [if_pos (length_unsigned size _), unsignedValue_unsigned, Nat.mod_eq_of_lt (toNat_lt w),
      ofNat_toNat]

theorem decode?_eq_some_iff : form.decode? bytes = some c ↔ form.Spells bytes c := by
  cases form with
  | bool =>
    constructor
    · intro read
      simp only [decode?] at read
      split at read
      next b => cases read; exact .bool b
      next => cases read
    · rintro ⟨b⟩
      rfl
  | int =>
    rw [decode?, decodeInt_eq_some_iff]
    exact ⟨.int, fun | .int spelled => spelled⟩
  | float4 =>
    refine (word_eq_some_iff (fun bits => .float (Float32.ofBits bits).toFloat) UInt32.toNat_lt
      (fun _ => UInt32.toNat_ofNat_of_lt') (fun _ => UInt32.ofNat_toNat)).trans ?_
    constructor
    · rintro ⟨bits, rfl, rfl⟩
      exact .float4 bits
    · exact fun | .float4 bits => ⟨bits, rfl, rfl⟩
  | float8 =>
    refine (word_eq_some_iff (fun bits => .float (Float.ofBits bits)) UInt64.toNat_lt
      (fun _ => UInt64.toNat_ofNat_of_lt') (fun _ => UInt64.ofNat_toNat)).trans ?_
    constructor
    · rintro ⟨bits, rfl, rfl⟩
      exact .float8 bits
    · exact fun | .float8 bits => ⟨bits, rfl, rfl⟩
  | bytes =>
    constructor
    · rintro ⟨⟩
      exact .bytes bytes
    · rintro ⟨⟩
      rfl
  | date =>
    simp only [decode?, Option.map_eq_some_iff, decodeDate_eq_some_iff]
    constructor
    · rintro ⟨d, rfl, rfl⟩
      exact .date d
    · exact fun | .date d => ⟨d, rfl, rfl⟩
  | datetime =>
    simp only [decode?, Option.map_eq_some_iff, decodeMoment_eq_some_iff]
    constructor
    · rintro ⟨m, ⟨whole, rfl⟩, rfl⟩
      exact .datetime whole
    · exact fun | .datetime whole => ⟨_, ⟨whole, rfl⟩, rfl⟩
  | timestamp =>
    simp only [decode?, Option.map_eq_some_iff, decodeMoment_eq_some_iff]
    constructor
    · rintro ⟨m, ⟨whole, rfl⟩, rfl⟩
      exact .timestamp whole
    · exact fun | .timestamp whole => ⟨_, ⟨whole, rfl⟩, rfl⟩
  | interval =>
    simp only [decode?, Option.map_eq_some_iff, decodeInterval_eq_some_iff]
    constructor
    · rintro ⟨length, ⟨_, _, _, fitsTime, fitsDays, fitsMonths, rfl, total⟩, rfl⟩
      exact .interval fitsTime fitsDays fitsMonths total
    · exact fun
        | .interval fitsTime fitsDays fitsMonths total =>
          ⟨_, ⟨_, _, _, fitsTime, fitsDays, fitsMonths, rfl, total⟩, rfl⟩
  | json =>
    simp only [decode?, Option.map_eq_some_iff, decodeJson_eq_some_iff]
    constructor
    · rintro ⟨j, spelled, rfl⟩
      exact .json spelled
    · exact fun | .json spelled => ⟨_, spelled, rfl⟩
  | jsonb =>
    simp only [decode?, Option.map_eq_some_iff, Option.bind_eq_some_iff, decodeJson_eq_some_iff,
      afterVersion?_eq_some_iff]
    constructor
    · rintro ⟨j, ⟨after, rfl, spelled⟩, rfl⟩
      exact .jsonb spelled
    · exact fun | .jsonb spelled => ⟨_, ⟨_, rfl, spelled⟩, rfl⟩
  | ints =>
    simp only [decode?, Option.map_eq_some_iff, decodeArray_eq_some_iff, decodeInt_eq_some_iff]
    constructor
    · rintro ⟨cells, spelled, rfl⟩
      exact .ints spelled
    · exact fun | .ints spelled => ⟨_, spelled, rfl⟩
  | texts =>
    simp only [decode?, Option.map_eq_some_iff, decodeArray_eq_some_iff, decodeText_eq_some_iff]
    constructor
    · rintro ⟨cells, spelled, rfl⟩
      exact .texts spelled
    · exact fun | .texts spelled => ⟨_, spelled, rfl⟩
  | text =>
    rw [decode?, decodeText_eq_some_iff]
    exact ⟨.text, fun | .text spelled => spelled⟩
  | versionedText =>
    simp only [decode?, Option.bind_eq_some_iff, decodeText_eq_some_iff, afterVersion?_eq_some_iff]
    constructor
    · rintro ⟨after, rfl, spelled⟩
      exact .versionedText spelled
    · exact fun | .versionedText spelled => ⟨_, rfl, spelled⟩

end Form

end SqlDialect.Wire

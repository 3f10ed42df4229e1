import SqlDialect.File
import SqlDialect.Settings.Connection

/-! Files of certificates. Each certificate is a block between two marks; what stands outside of
the blocks has no meaning. -/

set_option autoImplicit false

namespace SqlDialect

namespace Certificate

def beginMark : Text := "-----BEGIN CERTIFICATE-----"

def endMark : Text := "-----END CERTIFICATE-----"

theorem length_rest_lt {s before found body rest : Text}
    (h₁ : Text.cut? beginMark s = some (before, found))
    (h₂ : Text.cut? endMark found = some (body, rest)) :
    (rest.drop endMark.length).length < s.length := by
  have h₃ := Text.length_found_le h₁
  have h₄ := Text.length_found_le h₂
  have h₅ := List.length_pos_iff.2 (Text.found_ne_nil (by decide) h₂)
  have h₆ : 0 < endMark.length := by decide
  simp only [List.length_drop]
  omega

-- The blocks of a text with their marks. A block that no mark ends is none.
def blocks (s : Text) : List Text :=
  match _h₁ : Text.cut? beginMark s with
  | none => []
  | some (_, found) =>
    match _h₂ : Text.cut? endMark found with
    | none => []
    | some (body, rest) => (body ++ endMark) :: blocks (rest.drop endMark.length)
termination_by s.length
decreasing_by exact length_rest_lt _h₁ _h₂

def base64Digit? (c : Char) : Option Nat :=
  if 'A' ≤ c ∧ c ≤ 'Z' then some (c.toNat - 'A'.toNat)
  else if 'a' ≤ c ∧ c ≤ 'z' then some (c.toNat - 'a'.toNat + 26)
  else if '0' ≤ c ∧ c ≤ '9' then some (c.toNat - '0'.toNat + 52)
  else if c = '+' then some 62
  else if c = '/' then some 63
  else none

/-- Bytes written to base 64: four digits make three bytes, and equals signs fill up the last
four. -/
def decodeBase64? : Text → Option (List UInt8)
  | [] => some []
  | [a, b, '=', '='] => do
    let a ← base64Digit? a
    let b ← base64Digit? b
    return [UInt8.ofNat (4 * a + b / 16)]
  | [a, b, c, '='] => do
    let a ← base64Digit? a
    let b ← base64Digit? b
    let c ← base64Digit? c
    return [UInt8.ofNat (4 * a + b / 16), UInt8.ofNat (b % 16 * 16 + c / 4)]
  | a :: b :: c :: d :: r => do
    let a ← base64Digit? a
    let b ← base64Digit? b
    let c ← base64Digit? c
    let d ← base64Digit? d
    let rest ← decodeBase64? r
    return UInt8.ofNat (4 * a + b / 16) :: UInt8.ofNat (b % 16 * 16 + c / 4) ::
      UInt8.ofNat (c % 4 * 64 + d) :: rest
  | _ => none

/-- The content of a structure that begins with its type and its length and ends with the bytes:
either a length below 128, or the number of bytes of the length and the length. -/
def structureContent? : List UInt8 → Option (List UInt8)
  | type :: length :: rest =>
    if type ≠ 0x30 then none
    else if length < 0x80 then if rest.length = length.toNat then some rest else none
    else
      let size := length.toNat - 0x80
      let content := rest.drop size
      let expected := (rest.take size).foldl (fun n b => 256 * n + b.toNat) 0
      if size ≤ rest.length ∧ content.length = expected then some content else none
  | _ => none

def isValid (block : Text) : Bool :=
  let body := (block.drop beginMark.length).take (block.length - beginMark.length - endMark.length)
  let digits := body.filter fun c => !(c == '\n' || c == '\r' || c == ' ' || c == '\t')
  match (decodeBase64? digits).bind structureContent? with
  | some content => !content.isEmpty
  | none => false

end Certificate

namespace ConnectionSettings

/-- The file of certificates is read if there is one, unless there is no encryption or the
certificates are not checked. -/
def usesCaFile (s : ConnectionSettings) : Bool :=
  s.caCertPath.isSome && s.sslMode != .disable && !(s.acceptInvalidCerts && !s.sslMode.verifies)

def checkCaFile (s : ConnectionSettings) (file : FileContent) : Except Fault Unit :=
  if s.usesCaFile then do
    let content ← file.read
    match Certificate.blocks content with
    | [] => throw (.configuration ("no certificates found in " ++ s.caCertPath.getD []))
    | blocks =>
      if blocks.all Certificate.isValid then return ()
      else throw (.configuration "malformed certificate")
  else return ()

end ConnectionSettings

end SqlDialect

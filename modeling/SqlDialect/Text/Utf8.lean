import SqlDialect.Text.Basic

/-! The UTF-8 form of a text: bytes written, bytes read, and bytes read with replacement
characters where they are no UTF-8. -/

set_option autoImplicit false

namespace SqlDialect.Text

def byteLength (s : Text) : Nat := s.foldr (fun c n => c.utf8Size + n) 0

@[simp] theorem byteLength_cons (c : Char) (s : Text) :
    byteLength (c :: s) = c.utf8Size + byteLength s := rfl

theorem byteLength_append (s t : Text) : byteLength (s ++ t) = byteLength s + byteLength t := by
  induction s with
  | nil => exact (Nat.zero_add _).symm
  | cons c s ih => rw [List.cons_append, byteLength_cons, byteLength_cons, ih, Nat.add_assoc]

def charBytes (c : Char) : List UInt8 :=
  let n := c.toNat
  if n < 0x80 then [UInt8.ofNat n]
  else if n < 0x800 then [UInt8.ofNat (0xC0 + n / 64), UInt8.ofNat (0x80 + n % 64)]
  else if n < 0x10000 then
    [UInt8.ofNat (0xE0 + n / 4096), UInt8.ofNat (0x80 + n / 64 % 64), UInt8.ofNat (0x80 + n % 64)]
  else
    [UInt8.ofNat (0xF0 + n / 262144), UInt8.ofNat (0x80 + n / 4096 % 64),
      UInt8.ofNat (0x80 + n / 64 % 64), UInt8.ofNat (0x80 + n % 64)]

def toUtf8 (s : Text) : List UInt8 := s.flatMap charBytes

/-- What the bytes at the head of a sequence are: a character and the bytes it takes, or the
longest beginning of a character, which is never empty, that does not go on as one. -/
inductive Head where
  | char (c : Char) (size : Nat)
  | broken (size : Nat)

def isContinuation (b : UInt8) : Bool := 0x80 ≤ b && b ≤ 0xBF

/-- The second bytes that a first byte of three or four bytes allows: neither overlong forms,
nor surrogates, nor code points beyond the last. -/
def allowsSecond (first second : UInt8) : Bool :=
  if first == 0xE0 then 0xA0 ≤ second && second ≤ 0xBF
  else if first == 0xED then 0x80 ≤ second && second ≤ 0x9F
  else if first == 0xF0 then 0x90 ≤ second && second ≤ 0xBF
  else if first == 0xF4 then 0x80 ≤ second && second ≤ 0x8F
  else isContinuation second

def low (b : UInt8) : Nat := b.toNat % 64

def head (a : UInt8) (rest : List UInt8) : Head :=
  if a < 0x80 then .char (Char.ofNat a.toNat) 1
  else if 0xC2 ≤ a && a ≤ 0xDF then
    match rest with
    | b :: _ =>
      if isContinuation b then .char (Char.ofNat (a.toNat % 32 * 64 + low b)) 2 else .broken 1
    | [] => .broken 1
  else if 0xE0 ≤ a && a ≤ 0xEF then
    match rest with
    | b :: more =>
      if allowsSecond a b then
        match more with
        | c :: _ =>
          if isContinuation c then
            .char (Char.ofNat ((a.toNat % 16 * 64 + low b) * 64 + low c)) 3
          else .broken 2
        | [] => .broken 2
      else .broken 1
    | [] => .broken 1
  else if 0xF0 ≤ a && a ≤ 0xF4 then
    match rest with
    | b :: more =>
      if allowsSecond a b then
        match more with
        | c :: last =>
          if isContinuation c then
            match last with
            | d :: _ =>
              if isContinuation d then
                .char (Char.ofNat (((a.toNat % 8 * 64 + low b) * 64 + low c) * 64 + low d)) 4
              else .broken 3
            | [] => .broken 3
          else .broken 2
        | [] => .broken 2
      else .broken 1
    | [] => .broken 1
  else .broken 1

def ofUtf8? (bytes : List UInt8) : Option Text :=
  match bytes with
  | [] => some []
  | a :: rest =>
    match head a rest with
    | .char c size => (ofUtf8? (rest.drop (size - 1))).map (c :: ·)
    | .broken _ => none
termination_by bytes.length
decreasing_by simp only [List.length_drop, List.length_cons]; omega

/-- The text that bytes spell, with U+FFFD for each longest part that does not go on as a
character. -/
def ofUtf8Lossy (bytes : List UInt8) : Text :=
  match bytes with
  | [] => []
  | a :: rest =>
    match head a rest with
    | .char c size => c :: ofUtf8Lossy (rest.drop (size - 1))
    | .broken size => '\ufffd' :: ofUtf8Lossy (rest.drop (size - 1))
termination_by bytes.length
decreasing_by all_goals simp only [List.length_drop, List.length_cons]; omega

end SqlDialect.Text

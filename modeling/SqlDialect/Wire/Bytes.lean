/-! Numbers as bytes, the most significant first. -/

set_option autoImplicit false

namespace SqlDialect.Wire

abbrev Bytes := List UInt8

def capacity (size : Nat) : Nat := Nat.pow 256 size

-- A number in so many bytes; what does not fit is dropped from the front.
def unsigned : Nat → Nat → Bytes
  | 0, _ => []
  | size + 1, n => UInt8.ofNat (n / capacity size) :: unsigned size n

def signed (size : Nat) (i : Int) : Bytes := unsigned size (i % capacity size).toNat

def unsignedValue (bytes : Bytes) : Nat := bytes.foldl (fun n b => 256 * n + b.toNat) 0

def signedValue (bytes : Bytes) : Int :=
  let n : Int := unsignedValue bytes
  if 2 * n < capacity bytes.length then n else n - capacity bytes.length

@[simp] theorem length_unsigned (size n : Nat) : (unsigned size n).length = size := by
  induction size with
  | zero => rfl
  | succ size ih => simp [unsigned, ih]

@[simp] theorem length_signed (size : Nat) (i : Int) : (signed size i).length = size := by
  simp [signed]

def take? (size : Nat) (bytes : Bytes) : Option (Bytes × Bytes) :=
  if bytes.length < size then none else some (bytes.take size, bytes.drop size)

def readSigned? (size : Nat) (bytes : Bytes) : Option (Int × Bytes) :=
  (take? size bytes).map fun (head, rest) => (signedValue head, rest)

end SqlDialect.Wire

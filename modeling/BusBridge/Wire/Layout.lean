import BusBridge.Wire.Bytes
/-!
# Fixed layouts

A packed value is laid out as the bytes of its fields in order. The byte order decides the bytes of
each field and never the order of the fields; everything on the wire is big endian.

`Packed.read` takes one value from the front of a byte string and gives back the rest. It fails
exactly when fewer than `Packed.size` bytes are there.
-/

namespace BusBridge

inductive ByteOrder where
  | big
  | little
deriving DecidableEq, Repr

namespace ByteOrder

/-- The `width` least significant bytes of `n`, least significant first. -/
def littleBytes : Nat → Nat → Bytes
  | 0, _ => []
  | width + 1, n => UInt8.ofNat (n % 256) :: littleBytes width (n / 256)

/-- The number with the given bytes, least significant first. -/
def littleValue : Bytes → Nat
  | [] => 0
  | b :: rest => b.toNat + 256 * littleValue rest

def bytes (order : ByteOrder) (width n : Nat) : Bytes :=
  match order with
  | big => (littleBytes width n).reverse
  | little => littleBytes width n

def value (order : ByteOrder) (bs : Bytes) : Nat :=
  match order with
  | big => littleValue bs.reverse
  | little => littleValue bs

/-- A number of `width` bytes from the front of a byte string. -/
def read (order : ByteOrder) (width : Nat) (bs : Bytes) : Option (Nat × Bytes) :=
  if width ≤ bs.length then some (order.value (bs.take width), bs.drop width) else none

@[simp] theorem length_littleBytes (width n : Nat) : (littleBytes width n).length = width := by
  induction width generalizing n with
  | zero => rfl
  | succ width ih => simp only [littleBytes, List.length_cons, ih]

@[simp] theorem length_bytes (order : ByteOrder) (width n : Nat) : (order.bytes width n).length = width := by
  cases order <;> simp [bytes]

end ByteOrder

/-- Values with a layout of fixed size. -/
class Packed (α : Type) where
  size : Nat
  bytes : ByteOrder → α → Bytes
  read : ByteOrder → Bytes → Option (α × Bytes)

instance : Packed UInt8 where
  size := 1
  bytes _ b := [b]
  read
    | _, [] => none
    | _, b :: rest => some (b, rest)

instance : Packed UInt16 where
  size := 2
  bytes order w := order.bytes 2 w.toNat
  read order bs := (order.read 2 bs).map fun (n, rest) => (UInt16.ofNat n, rest)

instance : Packed UInt32 where
  size := 4
  bytes order w := order.bytes 4 w.toNat
  read order bs := (order.read 4 bs).map fun (n, rest) => (UInt32.ofNat n, rest)

/-- The bytes of a value on the wire. -/
def wire {α : Type} [Packed α] (a : α) : Bytes :=
  Packed.bytes .big a

end BusBridge

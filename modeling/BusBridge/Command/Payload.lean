import BusBridge.Wire.Cursor
/-!
# Payload layouts

A payload is written piece by piece; its layout is the concatenation of its pieces. A packed value is
one piece, and reading it ignores the bytes that follow.
-/

namespace BusBridge

class Payload (α : Type) where
  pieces : α → List Bytes
  decode : Bytes → Except DecodeError α

namespace Payload

/-- The layout of a value. -/
def layout {α : Type} [Payload α] (a : α) : Bytes :=
  (pieces a).flatten

/-- A packed value as a payload. -/
@[reducible] def ofPacked (α : Type) [Packed α] : Payload α where
  pieces a := [wire a]
  decode bs := (Scan.mk bs).unpack.map Prod.fst

/-- Write a value at the start of a block: the number of bytes written, and the block afterwards. -/
def encode {α : Type} [Payload α] (a : α) (block : Bytes) : Except CapacityError Nat × Bytes :=
  let (result, draft) := (Draft.start block).encode (pieces a)
  (result.map fun _ => draft.length, draft.block)

end Payload

/-- Nothing at all, whatever bytes are there. -/
instance : Payload Unit where
  pieces _ := []
  decode _ := .ok ()

/-- Bytes without structure. -/
structure Raw where
  data : Bytes
deriving DecidableEq, Repr

instance : Payload Raw where
  pieces r := [r.data]
  decode bs := .ok ⟨bs⟩

end BusBridge

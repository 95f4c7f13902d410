import BusBridge.Wire.Code
/-!
# Cursors over a payload

`Draft` writes a payload into a bounded block, `Scan` reads one. A write that does not fit and a read
that finds too few bytes leave the cursor where it was.
-/

namespace BusBridge

/-- The space left is too small for what was to be written. -/
structure CapacityError where
deriving DecidableEq, Repr

def CapacityError.message (_ : CapacityError) : String := "capacity exceeded"

/-- Why a payload could not be read. -/
inductive DecodeError where
  | truncated (expected actual : Nat)
  /-- the hardware description is not text -/
  | notText
deriving DecidableEq, Repr

def DecodeError.message : DecodeError → String
  | truncated expected actual => s!"payload truncated, expected {expected} bytes but got {actual}"
  | notText => "invalid payload: hardware info is not utf-8"

/-- A payload being written at the start of a block. -/
structure Draft where
  block : Bytes
  length : Nat
  length_le : length ≤ block.length

namespace Draft

/-- Nothing written yet. -/
def start (block : Bytes) : Draft :=
  ⟨block, 0, Nat.zero_le _⟩

/-- The bytes written so far. -/
def written (d : Draft) : Bytes :=
  d.block.take d.length

/-- The content of the space left. -/
def remaining (d : Draft) : Bytes :=
  d.block.drop d.length

/-- Number of bytes that can still be written. -/
def space (d : Draft) : Nat :=
  d.block.length - d.length

/-- Forget everything written. The block keeps its content. -/
def clear (d : Draft) : Draft :=
  start d.block

/-- Write over the space left without counting anything as written. -/
def fill (d : Draft) (data : Bytes) : Draft :=
  ⟨Bytes.overlay d.block d.length data, d.length, by simpa using d.length_le⟩

/-- Count `size` more bytes of the space left as written. -/
def advance (d : Draft) (size : Nat) : Except CapacityError Draft :=
  if h : size ≤ d.space then
    .ok ⟨d.block, d.length + size, by have := d.length_le; simp only [space] at h; omega⟩
  else
    .error {}

/-- Append bytes. -/
def put (d : Draft) (bytes : Bytes) : Except CapacityError Draft :=
  if bytes.length ≤ d.space then (d.fill bytes).advance bytes.length else .error {}

/-- Append pieces one after the other, up to the first that does not fit. -/
def putAll (d : Draft) : List Bytes → Except CapacityError Unit × Draft
  | [] => (.ok (), d)
  | piece :: rest =>
    match d.put piece with
    | .ok d => d.putAll rest
    | .error e => (.error e, d)

/-- Append a payload as a whole: if one of its pieces does not fit nothing counts as written, though
the pieces before it stay in the space left. -/
def encode (d : Draft) (pieces : List Bytes) : Except CapacityError Unit × Draft :=
  match d.putAll pieces with
  | (.ok _, d) => (.ok (), d)
  | (.error e, full) => (.error e, d.fill (Bytes.slice full.block d.length d.space))

end Draft

/-- The part of a payload that is not read yet. -/
structure Scan where
  rest : Bytes

namespace Scan

/-- Read one packed value. -/
def unpack {α : Type} [Packed α] (s : Scan) : Except DecodeError (α × Scan) :=
  match Packed.read .big s.rest with
  | some (a, rest) => .ok (a, ⟨rest⟩)
  | none => .error (.truncated (Packed.size α) s.rest.length)

end Scan

/-- Split the payload of a response into its status and its body. -/
def splitStatus (payload : Bytes) : Except DecodeError (Status × Bytes) := do
  let (status, s) ← (Scan.mk payload).unpack
  return (status, s.rest)

end BusBridge

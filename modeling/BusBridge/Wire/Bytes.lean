/-!
# Byte strings and blocks of fixed size

`Bytes` is `List UInt8`, the carrier on which every layout and every frame is stated. A **block** is
a byte string whose length does not change: the only way to write into it is `Bytes.overlay`, which
replaces bytes in place and drops what would fall outside. `Buffer n` is a block of `n` bytes.
-/

namespace BusBridge

abbrev Bytes := List UInt8

namespace Bytes

/-- Write `data` over the bytes of `block` from `offset` on. -/
def overlay (block : Bytes) (offset : Nat) (data : Bytes) : Bytes :=
  let rest := block.drop offset
  block.take offset ++ (rest.zipWith (fun _ d => d) data ++ rest.drop data.length)

/-- The `count` bytes of `block` from `offset` on, fewer if the block ends before. -/
def slice (block : Bytes) (offset count : Nat) : Bytes :=
  (block.drop offset).take count

@[simp] theorem length_overlay (block : Bytes) (offset : Nat) (data : Bytes) :
    (overlay block offset data).length = block.length := by
  simp only [overlay, List.length_append, List.length_take, List.length_zipWith, List.length_drop]
  omega

@[simp] theorem overlay_nil (block : Bytes) (offset : Nat) : overlay block offset [] = block := by
  simp [overlay]

end Bytes

/-- A block of `n` bytes. -/
structure Buffer (n : Nat) where
  bytes : Bytes
  length_bytes : bytes.length = n

namespace Buffer

/-- The block of `n` zero bytes. -/
def zeroed (n : Nat) : Buffer n :=
  ⟨List.replicate n 0, List.length_replicate⟩

def overlay {n : Nat} (b : Buffer n) (offset : Nat) (data : Bytes) : Buffer n :=
  ⟨Bytes.overlay b.bytes offset data, by rw [Bytes.length_overlay, b.length_bytes]⟩

def slice {n : Nat} (b : Buffer n) (offset count : Nat) : Bytes :=
  Bytes.slice b.bytes offset count

@[ext] theorem ext {n : Nat} {a b : Buffer n} (h : a.bytes = b.bytes) : a = b := by
  cases a; cases b; cases h; rfl

end Buffer

end BusBridge

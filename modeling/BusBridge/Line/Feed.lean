import BusBridge.Line.Endpoint
/-!
# Feeding bytes to an endpoint

`Endpoint.feed` gives an endpoint the bytes of a string in whole blocks, as long as the armed block
is not longer than what is left, and goes on after oversized frames.
-/

namespace BusBridge.Endpoint

variable {n : Nat} {δ η φ : Type} [Medium δ φ] [Handler η]

/-- Fill the start of the armed block, the rest keeping its content, and report it as received. -/
def accept (e : Endpoint n δ η) (data : Bytes) : Run (Except Oversized Unit × Endpoint n δ η) :=
  (e.store 0 data).blockReceived

/-- What feeding has got to: the results so far with the last one first, the bytes left, and the
endpoint. -/
structure Feeding (n : Nat) (δ η : Type) where
  results : List (Except Oversized Unit)
  left : Bytes
  endpoint : Endpoint n δ η

/-- Feed one block, or stop if the bytes left do not fill it. -/
def feedTurn (f : Feeding n δ η) : Run (Turn (Feeding n δ η) (Feeding n δ η)) := do
  let size := f.endpoint.armedSize
  let block := f.left.take size
  if block.length < size then
    pure (.done f)
  else
    let (result, endpoint) ← f.endpoint.accept block
    pure (.again ⟨result :: f.results, f.left.drop size, endpoint⟩)

/-- Feed a byte string: the results of its blocks, the bytes left over, and the endpoint. An armed
block is never empty, so there are at most as many blocks as bytes. -/
def feed (e : Endpoint n δ η) (data : Bytes) :
    Run (List (Except Oversized Unit) × Bytes × Endpoint n δ η) := do
  let f ← Run.loop feedTurn (data.length + 1) ⟨[], data, e⟩
  pure (f.results.reverse, f.left, f.endpoint)

end BusBridge.Endpoint

import BusBridge.Bench.Listener
import BusBridge.Line.Feed
/-!
# The other side of a simulated line

A peer is a detached endpoint that is given bytes in pieces, each as long as its armed block still
takes, and hands out one waiting frame after each piece. A frame that waits longer comes with the next
piece, and without a piece nothing comes. A peer whose handler breaks a rule of use stays as it was at
that moment.
-/

namespace BusBridge.Bench

structure Peer where
  size : Nat
  endpoint : Endpoint size Detached Listener
  /-- bytes of the armed block already there -/
  filled : Nat := 0
  /-- the rule that the handler broke -/
  fault : Option Fault := none

namespace Peer

def attach (size : Nat) (listener : Listener) : Run Peer := do
  let endpoint ← Endpoint.attach size Detached.mk listener
  pure { size, endpoint }

/-- Put bytes into the armed block, and report it as received if that fills it. -/
def give (p : Peer) (part : Bytes) : Trace Peer := do
  let stored := p.endpoint.store p.filled part
  let filled := p.filled + part.length
  if filled < p.endpoint.armedSize then
    pure { p with endpoint := stored, filled }
  else
    match ← stored.blockReceived.attempt with
    | .ok (_, endpoint) => pure { p with endpoint, filled := 0 }
    | .error f => pure { p with endpoint := stored, fault := some f }

/-- Take the frame that waits, if any, and report it as sent. -/
def collect (p : Peer) : Trace (Bytes × Peer) := do
  match p.endpoint.link.armed? with
  | none => pure ([], p)
  | some frame =>
    match ← p.endpoint.blockSent.attempt with
    | .ok endpoint => pure (frame, { p with endpoint })
    | .error f => pure (frame, { p with endpoint.handler := p.endpoint.handler.spent, fault := some f })

/-- What an exchange with a peer has got to: the frames it answered with, the last one first, and the
bytes that it was not given yet. -/
structure Exchange where
  frames : List Bytes
  left : Bytes
  peer : Peer

/-- Give the peer as much as its armed block still takes, then take one frame. It is the last turn if
there is nothing to give, or if a rule is broken. -/
def exchangeTurn (x : Exchange) : Trace (Turn Exchange Exchange) := do
  if x.left.isEmpty || x.peer.fault.isSome then
    pure (.done x)
  else
    let want := x.peer.endpoint.armedSize - x.peer.filled
    let peer ← x.peer.give (x.left.take want)
    if peer.fault.isSome then
      pure (.done { x with peer })
    else
      let (frame, peer) ← peer.collect
      pure (.again ⟨frame :: x.frames, x.left.drop want, peer⟩)

/-- Give bytes to the peer: what it answers. The calls to its medium are nobody's business. -/
def exchange (p : Peer) (data : Bytes) : Trace (Bytes × Peer) := do
  let run : Run Exchange := Run.loop (fun x => exchangeTurn x) (data.length + 1) ⟨[], data, p⟩
  match ← (run.keeping fun e => !e.isArming).attempt with
  | .ok x => pure (x.frames.reverse.flatten, x.peer)
  | .error f => pure ([], { p with fault := some f })

end Peer

end BusBridge.Bench

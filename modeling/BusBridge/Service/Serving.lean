import BusBridge.Line.Endpoint
import BusBridge.Line.Stream
/-!
# Serving a bus

A served endpoint is detached: blocks are read from the bus as a whole, and frames written to it as a
whole, one after the other. A frame that is waiting is written before the next block is read. Frames
that are too long are skipped; only the bus ends the serving.
-/

namespace BusBridge

/-- Why serving a bus ended. -/
inductive ServingEnd where
  | failed (kind : IoKind)
  | closed
deriving DecidableEq, Repr

def ServingEnd.message : ServingEnd → String
  | failed kind => s!"problem with serial bus: {kind.name}"
  | closed => "serial bus reached end of stream"

namespace Serving

variable {σ η : Type} {n : Nat} [Stream σ]

/-- Report the pieces that the bus accepted. -/
def report (pieces : List Bytes) : Trace Unit :=
  ⟨pieces.map .wrote, ()⟩

/-- Write the waiting frame, flush the bus, and report the frame as sent. -/
def emission [Handler η] (bus : σ) (e : Endpoint n Detached η) :
    Run (Except ServingEnd Unit × σ × Endpoint n Detached η) := do
  match e.link.armed? with
  | none => pure (.ok (), bus, e)
  | some frame =>
    let (halt, given, bus) := Stream.drain frame bus []
    report given.reverse
    match halt with
    | .nothing => Run.stop .nothingWritten
    | .failed kind => pure (.error (.failed kind), bus, e)
    | .complete =>
      emit .flushed
      match ← Stream.flush bus with
      | (.error kind, bus) => pure (.error (.failed kind), bus, e)
      | (.ok _, bus) => pure (.ok (), bus, ← e.blockSent)

/-- Read the armed block and report it as received. What a failed read got is lost. -/
def reception [Handler η] (bus : σ) (e : Endpoint n Detached η) :
    Run (Except ServingEnd Unit × σ × Endpoint n Detached η) := do
  let (halt, got, bus) := Stream.gather e.armedSize bus []
  let e := e.store 0 got.reverse
  match halt with
  | .nothing => pure (.error .closed, bus, e)
  | .failed kind => pure (.error (.failed kind), bus, e)
  | .complete =>
    match ← e.blockReceived with
    | (.ok _, e) => pure (.ok (), bus, e)
    | (.error error, e) =>
      note (.skipped error)
      pure (.ok (), bus, e)

/-- Write the waiting frame, if any, then read a block. -/
def turn [Handler η] (s : σ × Endpoint n Detached η) :
    Run (Turn (σ × Endpoint n Detached η) (ServingEnd × σ × Endpoint n Detached η)) := do
  match ← emission s.1 s.2 with
  | (.error stop, bus, e) => pure (.done (stop, bus, e))
  | (.ok _, bus, e) =>
    match ← reception bus e with
    | (.error stop, bus, e) => pure (.done (stop, bus, e))
    | (.ok _, bus, e) => pure (.again (bus, e))

/-- Serve the bus until it fails or closes, in at most so many turns. -/
def serve [Handler η] (turns : Nat) (bus : σ) (e : Endpoint n Detached η) :
    Run (ServingEnd × σ × Endpoint n Detached η) :=
  Run.loop turn turns (bus, e)

end Serving

end BusBridge

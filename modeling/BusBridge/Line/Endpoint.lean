import BusBridge.Journal.Counter
import BusBridge.Journal.Loop
import BusBridge.Line.Link
/-!
# Endpoints

An endpoint frames messages over a medium. Reception goes from a header to the payload that it
declares and back; each complete frame is handed to the handler, which may send through the link
right away. A frame that declares more payload than the buffer holds is reported once, counted, and
skipped in blocks that fit, so the endpoint stays in step with the stream.

An endpoint is driven in one of two ways: by polling its medium (`poll`), or by reporting completed
blocks (`blockReceived`, `blockSent`) that someone else transferred.
-/

namespace BusBridge

/-- Receiver of the messages of an endpoint. -/
class Handler (η : Type) where
  /-- A message is complete; an answer can be sent through the link. -/
  onMessage {n : Nat} {δ φ : Type} [Medium δ φ] : η → Message → Link n δ → Run (η × Link n δ)
  /-- The frame being sent is complete and the link is idle. -/
  onSent {n : Nat} {δ φ : Type} [Medium δ φ] : η → Link n δ → Run (η × Link n δ) := fun h l => pure (h, l)

/-- What the armed block of an endpoint is. -/
inductive Reception where
  | header
  | payload (length : Nat)
  /-- so many bytes of an oversized frame are still to come -/
  | skipping (left : Nat)
deriving DecidableEq, Repr

namespace Reception

/-- Where the armed block starts in the receive buffer. -/
def offset : Reception → Nat
  | header => 0
  | payload _ | skipping _ => Header.size

/-- Size of the armed block, given the payload bytes that fit in the receive buffer. -/
def size (capacity : Nat) : Reception → Nat
  | header => Header.size
  | payload length => length
  | skipping left => min left capacity

end Reception

/-- Why a poll failed. -/
inductive PollError (φ : Type := IoKind) where
  | medium (failure : φ)
  | oversized (e : Oversized)
deriving DecidableEq, Repr

def PollError.message {φ : Type} [Failure φ] : PollError φ → String
  | medium failure => s!"block driver failure: {Failure.text failure}"
  | oversized e => e.message

/-- Both halves of an endpoint, with frames of at most `n` bytes. -/
structure Endpoint (n : Nat) (δ η : Type) where
  link : Link n δ
  /-- holds the frame being received -/
  inbox : Buffer n
  reception : Reception
  handler : η
  /-- frames skipped because they declare too much payload -/
  oversized : Counter

namespace Endpoint

variable {n : Nat} {δ η : Type}

/-- Payload bytes that fit in either buffer. -/
def capacity (_ : Endpoint n δ η) : Nat :=
  n - Header.size

/-- Size of the block armed for reception. -/
def armedSize (e : Endpoint n δ η) : Nat :=
  e.reception.size e.capacity

/-- Content of the block armed for reception. -/
def armed (e : Endpoint n δ η) : Bytes :=
  e.inbox.slice e.reception.offset e.armedSize

/-- Write into the block armed for reception, from `offset` on. -/
def store (e : Endpoint n δ η) (offset : Nat) (data : Bytes) : Endpoint n δ η :=
  { e with inbox := e.inbox.overlay (e.reception.offset + offset) (data.take (e.armedSize - offset)) }

/-- The header in the receive buffer. -/
def header (e : Endpoint n δ η) : Header :=
  (Header.read? e.inbox.bytes).getD ⟨0, 0, 0, 0⟩

/-- A frame is being sent. -/
def isSending (e : Endpoint n δ η) : Bool :=
  e.link.isBusy

/-- Report every frame from now on. -/
def enableDump (e : Endpoint n δ η) : Endpoint n δ η :=
  { e with link.dump := true }

variable {φ : Type} [Medium δ φ]

/-- An endpoint that waits for the first header. -/
def attach (n : Nat) (medium : δ) (handler : η) : Run (Endpoint n δ η) := do
  if n ≤ Header.size then Run.stop .noRoom
  let medium ← Medium.beginReceive medium Header.size
  pure ⟨.idle medium, .zeroed n, .header, handler, 0⟩

/-- Arm the next block for reception. -/
def arm (e : Endpoint n δ η) (reception : Reception) : Trace (Endpoint n δ η) := do
  let medium ← Medium.beginReceive e.link.medium (reception.size e.capacity)
  pure { e with reception, link.medium := medium }

/-- Give up the frame being sent. -/
def abandonSend (e : Endpoint n δ η) : Trace (Endpoint n δ η) := do
  let link ← e.link.abandon
  pure { e with link }

variable [Handler η]

/-- Hand the frame in the receive buffer to the handler. -/
def deliver (e : Endpoint n δ η) (h : Header) : Run (Endpoint n δ η) := do
  let frame := e.inbox.slice 0 (Header.size + h.length.toNat)
  if e.link.dump then note (.frameIn frame)
  let message : Message := ⟨h.component, h.operation, h.channel, frame.drop Header.size⟩
  let (handler, link) ← Handler.onMessage e.handler message e.link
  pure { e with handler, link }

/-- The armed reception is complete. -/
def blockReceived (e : Endpoint n δ η) : Run (Except Oversized Unit × Endpoint n δ η) := do
  match e.reception with
  | .header =>
    let h := e.header
    note (.headerReceived h)
    let length := h.length.toNat
    if length = 0 then
      let e ← e.deliver h
      let e ← e.arm .header
      pure (.ok (), e)
    else if length > e.capacity then
      note (.frameSkipped h e.capacity)
      let e ← { e with oversized := e.oversized.plus 1 }.arm (.skipping length)
      pure (.error ⟨length, e.capacity⟩, e)
    else
      let e ← e.arm (.payload length)
      pure (.ok (), e)
  | .payload _ =>
    let e ← e.deliver e.header
    let e ← e.arm .header
    pure (.ok (), e)
  | .skipping left =>
    let left := left - e.capacity
    let e ← e.arm (if left = 0 then .header else .skipping left)
    pure (.ok (), e)

/-- The armed emission is complete. -/
def blockSent (e : Endpoint n δ η) : Run (Endpoint n δ η) := do
  match e.link.sending with
  | none => pure e
  | some size =>
    note (.frameSent size)
    let (handler, link) ← Handler.onSent e.handler { e.link with sending := none }
    pure { e with handler, link }

/-- Progress on reception: whether a block was completed. -/
def pollReceive (e : Endpoint n δ η) : Run (Except (PollError φ) Bool × Endpoint n δ η) := do
  let (result, block, medium) := Medium.pollReceive e.link.medium e.armed
  let e := { e.store 0 block with link.medium := medium }
  match result with
  | .error failure => pure (.error (.medium failure), e)
  | .ok false => pure (.ok false, e)
  | .ok true =>
    match ← e.blockReceived with
    | (.ok _, e) => pure (.ok true, e)
    | (.error error, e) => pure (.error (.oversized error), e)

/-- Progress on emission: whether a frame was completed. -/
def pollSend (e : Endpoint n δ η) : Run (Except (PollError φ) Bool × Endpoint n δ η) := do
  match e.link.armed? with
  | none => pure (.ok false, e)
  | some frame =>
    let (result, medium) ← Medium.pollSend e.link.medium frame
    let e := { e with link.medium := medium }
    match result with
    | .error failure => pure (.error (.medium failure), e)
    | .ok false => pure (.ok false, e)
    | .ok true =>
      let e ← e.blockSent
      pure (.ok true, e)

/-- One round of progress in both directions: whether anything was completed. -/
def pollOnce (e : Endpoint n δ η) : Run (Except (PollError φ) Bool × Endpoint n δ η) := do
  match ← e.pollSend with
  | (.error error, e) => pure (.error error, e)
  | (.ok sent, e) =>
    match ← e.pollReceive with
    | (.error error, e) => pure (.error error, e)
    | (.ok received, e) => pure (.ok (sent || received), e)

/-- A round of progress, after rounds that completed something or not. It is the last one if it
completes nothing or fails. -/
def pollTurn (s : Bool × Endpoint n δ η) :
    Run (Turn (Bool × Endpoint n δ η) (Except (PollError φ) Bool × Endpoint n δ η)) := do
  match ← s.2.pollOnce with
  | (.error error, e) => pure (.done (.error error, e))
  | (.ok false, e) => pure (.done (.ok s.1, e))
  | (.ok true, e) => pure (.again (true, e))

/-- All progress that can be made now, in at most `rounds` rounds: whether anything was completed. -/
def poll (rounds : Nat) (e : Endpoint n δ η) : Run (Except (PollError φ) Bool × Endpoint n δ η) :=
  Run.loop pollTurn rounds (false, e)

end Endpoint

end BusBridge

import BusBridge.Journal.Run
import BusBridge.Line.Medium
/-!
# The sending half of an endpoint

A link owns the medium and a buffer that holds one frame. It is idle, or busy with the frame at the
start of its buffer. A frame is started in one of four ways: as bytes (`send`), as a message
(`sendMessage`), as a request (`sendRequest`), or written in place and committed (`commit`). Starting
a frame while the link is busy is a fault. A frame that does not fit is refused and the link stays
idle; the declared length is never cut.
-/

namespace BusBridge

/-- Sending half of an endpoint with frames of at most `n` bytes over a medium. -/
structure Link (n : Nat) (δ : Type) where
  medium : δ
  buffer : Buffer n
  /-- size of the frame being sent -/
  sending : Option Nat
  /-- report every frame, in both directions -/
  dump : Bool

namespace Link

variable {n : Nat} {δ : Type}

/-- An idle link. -/
def idle (medium : δ) : Link n δ :=
  ⟨medium, .zeroed n, none, false⟩

def isBusy (l : Link n δ) : Bool :=
  l.sending.isSome

/-- The frame being sent. -/
def armed? (l : Link n δ) : Option Bytes :=
  l.sending.map fun size => l.buffer.slice 0 size

/-- Payload bytes that fit in the buffer. -/
def capacity (_ : Link n δ) : Nat :=
  n - Header.size

/-- Content of the buffer where the payload of the next frame is written. -/
def payload (l : Link n δ) : Bytes :=
  l.buffer.slice Header.size (n - Header.size)

/-- The link is idle, or the work stops. -/
def requireIdle (l : Link n δ) : Run Unit :=
  if l.isBusy then Run.stop .busy else pure ()

/-- Write into the buffer where the payload of the next frame is. -/
def writePayload (l : Link n δ) (data : Bytes) : Link n δ :=
  { l with buffer := l.buffer.overlay Header.size data }

variable {φ : Type} [Medium δ φ]

/-- Start sending the first `size` bytes of the buffer. -/
def start (l : Link n δ) (size : Nat) : Trace (Link n δ) := do
  if l.dump then note (.frameOut (l.buffer.slice 0 size))
  let medium ← Medium.beginSend l.medium size
  pure { l with sending := some size, medium }

/-- Send a frame given as bytes, header included. -/
def send (l : Link n δ) (frame : Bytes) : Run (Except TooLarge Unit × Link n δ) := do
  l.requireIdle
  if frame.length < Header.size then Run.stop .headless
  if frame.length > n then
    pure (.error ⟨frame.length, n⟩, l)
  else
    let l ← { l with buffer := l.buffer.overlay 0 frame }.start frame.length
    pure (.ok (), l)

/-- Send the first `length` bytes of the payload that was written in place. -/
def commit (l : Link n δ) (component operation channel : UInt8) (length : Nat) :
    Run (Except TooLarge Unit × Link n δ) := do
  l.requireIdle
  if length > n - Header.size ∨ length > maxPayload then
    pure (.error ⟨Header.size + length, n⟩, l)
  else
    let header : Header := ⟨component, operation, channel, UInt16.ofNat length⟩
    let l ← { l with buffer := l.buffer.overlay 0 (wire header) }.start (Header.size + length)
    pure (.ok (), l)

/-- Write a payload in place, as much of it as fits, and send its first `length` bytes. -/
def commitPayload (l : Link n δ) (m : Message) (length : Nat) : Run (Except TooLarge Unit × Link n δ) := do
  l.requireIdle
  (l.writePayload m.payload).commit m.component m.operation m.channel length

/-- Frame and send a message. -/
def sendMessage (l : Link n δ) (m : Message) : Run (Except TooLarge Unit × Link n δ) := do
  l.requireIdle
  if m.payload.length > n - Header.size then
    pure (.error ⟨Header.size + m.payload.length, n⟩, l)
  else
    l.commitPayload m m.payload.length

/-- Write a request in place and send it. -/
def sendRequest (l : Link n δ) (channel : UInt8) (r : Request) : Run (Except CapacityError Unit × Link n δ) := do
  l.requireIdle
  match (Draft.start l.payload).encode r.pieces with
  | (.error e, draft) => pure (.error e, l.writePayload draft.block)
  | (.ok _, draft) =>
    let (result, l) ←
      (l.writePayload draft.block).commit r.command.component r.command.operation channel draft.length
    pure (result.mapError fun _ => {}, l)

/-- Give up the frame being sent. -/
def abandon (l : Link n δ) : Trace (Link n δ) := do
  if l.isBusy then
    note .sendAbandoned
    let medium ← Medium.giveUpSend l.medium
    pure { l with medium, sending := none }
  else
    pure l

end Link

end BusBridge

import BusBridge.Caller.Call
/-!
# Calls over a stream in time

A timed stream makes its user wait: a read, a write or a flush comes back when it is done, when it
failed, or, with nothing, when the given moment has passed first. A timed caller keeps the progress
of both armed blocks itself, so a call that the timeout cuts off at any wait loses no byte in either
direction. Before a request goes out the frame of an earlier call is completed, and the input that is
already there is dropped.
-/

namespace BusBridge

class TimedStream (σ : Type) where
  /-- the present moment, in milliseconds -/
  now : σ → Nat
  /-- wait for input until the given moment; no bytes at the end of the input -/
  read : σ → (deadline : Nat) → (want : Nat) → Option (Except IoKind Bytes) × σ
  /-- wait for room until the given moment: the number of bytes accepted from the front -/
  write : σ → (deadline : Nat) → Bytes → Option (Except IoKind Nat) × σ
  /-- wait until the given moment for the bytes accepted so far to be handed to the other side -/
  flush : σ → (deadline : Nat) → Trace (Option (Except IoKind Unit) × σ)

/-- Why a piece of a timed exchange stopped. -/
inductive Interruption where
  | failed (e : CallError)
  /-- the awaited moment has passed -/
  | expired
deriving DecidableEq, Repr

/-- A caller over a timed stream, with frames of at most `n` bytes. Its handler is a slot, or something
around one. -/
structure TimedCaller (n : Nat) (σ : Type) (η : Type := ResponseSlot) where
  stream : σ
  endpoint : Endpoint n Detached η
  settings : CallSettings
  /-- bytes of the armed reception already received -/
  received : Nat := 0
  /-- bytes of the armed emission already written -/
  sent : Nat := 0

namespace TimedCaller

variable {n : Nat} {σ η : Type}

/-- A caller with the given handler. -/
def attachWith (n : Nat) (stream : σ) (settings : CallSettings) (handler : η) : Run (TimedCaller n σ η) := do
  let endpoint ← Endpoint.attach n Detached.mk handler
  pure { stream, settings, endpoint := if settings.dump then endpoint.enableDump else endpoint }

def attach (n : Nat) (stream : σ) (settings : CallSettings) : Run (TimedCaller n σ) :=
  attachWith n stream settings {}

variable [KeepsSlot η]

def slot (c : TimedCaller n σ η) : ResponseSlot :=
  KeepsSlot.slot c.endpoint.handler

def setSlot (c : TimedCaller n σ η) (slot : ResponseSlot) : TimedCaller n σ η :=
  { c with endpoint.handler := KeepsSlot.setSlot c.endpoint.handler slot }

def reset (c : TimedCaller n σ η) : TimedCaller n σ η :=
  c.setSlot c.slot.reset

variable [TimedStream σ] [Handler η]

/-- Write some of the armed frame; done when there is none. -/
def sendTurn (deadline : Nat) (c : TimedCaller n σ η) :
    Run (Turn (TimedCaller n σ η) (Except Interruption Unit × TimedCaller n σ η)) := do
  match c.endpoint.link.armed? with
  | none => pure (.done (.ok (), c))
  | some frame =>
    let (result, stream) := TimedStream.write c.stream deadline (frame.drop c.sent)
    let c := { c with stream }
    match result with
    | none => pure (.done (.error .expired, c))
    | some (.error kind) => pure (.done (.error (.failed (.bus kind)), c))
    | some (.ok count) =>
      if count = 0 then
        pure (.done (.error (.failed (.bus .writeZero)), c))
      else if c.sent + count = frame.length then
        let endpoint ← c.endpoint.blockSent
        let (flushed, stream) ← TimedStream.flush c.stream deadline
        let c := { c with stream, endpoint, sent := 0 }
        match flushed with
        | none => pure (.done (.error .expired, c))
        | some (.error kind) => pure (.done (.error (.failed (.bus kind)), c))
        | some (.ok _) => pure (.again c)
      else
        pure (.again { c with sent := c.sent + count })

/-- Write the rest of the armed frame, if there is one. -/
def sendFrame (rounds deadline : Nat) (c : TimedCaller n σ η) : Run (Except Interruption Unit × TimedCaller n σ η) :=
  Run.loop (sendTurn deadline) rounds c

/-- Read some of the armed block; done when it is full. -/
def fillTurn (deadline : Nat) (c : TimedCaller n σ η) :
    Run (Turn (TimedCaller n σ η) (Except Interruption Unit × TimedCaller n σ η)) := do
  if c.endpoint.armedSize ≤ c.received then
    pure (.done (.ok (), c))
  else
    let want := c.endpoint.armedSize - c.received
    let (result, stream) := TimedStream.read c.stream deadline want
    let c := { c with stream }
    match result with
    | none => pure (.done (.error .expired, c))
    | some (.error kind) => pure (.done (.error (.failed (.bus kind)), c))
    | some (.ok bytes) =>
      let bytes := bytes.take want
      if bytes.length = 0 then
        pure (.done (.error (.failed (.bus .unexpectedEof)), c))
      else
        pure (.again { c with
          endpoint := c.endpoint.store c.received bytes
          received := c.received + bytes.length })

/-- Complete the armed reception; what a cut off wait got is kept. -/
def receive (rounds deadline : Nat) (c : TimedCaller n σ η) : Run (Except Interruption Unit × TimedCaller n σ η) := do
  match ← Run.loop (fillTurn deadline) rounds c with
  | (.error stop, c) => pure (.error stop, c)
  | (.ok _, c) =>
    let (result, endpoint) ← c.endpoint.blockReceived
    match result with
    | .ok _ => pure ()
    | .error e => note (.skipped e)
    pure (.ok (), { c with endpoint, received := 0 })

/-- Receive a block if it is already there. The look for it may itself last beyond the deadline. -/
def dropTurn (rounds deadline : Nat) (c : TimedCaller n σ η) :
    Run (Turn (TimedCaller n σ η) (Except Interruption Unit × TimedCaller n σ η)) := do
  match ← c.receive rounds (TimedStream.now c.stream) with
  | (.ok _, c) => pure (.again c)
  | (.error .expired, c) =>
    let late := deadline < TimedStream.now c.stream
    pure (.done (if late then .error .expired else .ok (), c))
  | (.error stop, c) => pure (.done (.error stop, c))

/-- Receive what is already there, expecting nothing. -/
def dropInput (rounds deadline : Nat) (c : TimedCaller n σ η) : Run (Except Interruption Unit × TimedCaller n σ η) :=
  Run.loop (dropTurn rounds deadline) rounds c.reset

/-- Receive a block, unless the expected response is there. -/
def awaitTurn (rounds deadline : Nat) (c : TimedCaller n σ η) :
    Run (Turn (TimedCaller n σ η) (Except Interruption Message × TimedCaller n σ η)) := do
  let (response, slot) := c.slot.take
  let c := c.setSlot slot
  match response with
  | some m => pure (.done (.ok m, c))
  | none =>
    match ← c.receive rounds deadline with
    | (.error stop, c) => pure (.done (.error stop, c))
    | (.ok _, c) => pure (.again c)

/-- Receive until the expected response is there. -/
def await (rounds deadline : Nat) (c : TimedCaller n σ η) : Run (Except Interruption Message × TimedCaller n σ η) :=
  Run.loop (awaitTurn rounds deadline) rounds c

/-- Expect the response to a request and start sending it. -/
def begin (c : TimedCaller n σ η) (channel : UInt8) (r : Request) :
    Run (Except Interruption Unit × TimedCaller n σ η) := do
  let c := c.setSlot (c.slot.expect r.command.component (responseTo r.command.operation))
  let (result, link) ← c.endpoint.link.sendRequest channel r
  pure (result.mapError fun _ => .failed .capacity, { c with endpoint.link := link })

def exchange (rounds deadline : Nat) (c : TimedCaller n σ η) (channel : UInt8) (r : Request) :
    Run (Except Interruption Message × TimedCaller n σ η) := do
  match ← c.sendFrame rounds deadline with
  | (.error stop, c) => pure (.error stop, c)
  | (.ok _, c) =>
    match ← c.dropInput rounds deadline with
    | (.error stop, c) => pure (.error stop, c)
    | (.ok _, c) =>
      match ← c.begin channel r with
      | (.error stop, c) => pure (.error stop, c)
      | (.ok _, c) =>
        match ← c.sendFrame rounds deadline with
        | (.error stop, c) => pure (.error stop, c)
        | (.ok _, c) => c.await rounds deadline

/-- Send a request and wait for its response. -/
def call (rounds : Nat) (c : TimedCaller n σ η) (channel : UInt8) (r : Request) :
    Run (Except CallError Message × TimedCaller n σ η) := do
  let deadline := TimedStream.now c.stream + c.settings.timeout.milliseconds
  match ← c.exchange rounds deadline channel r with
  | (.ok m, c) => pure (.ok m, c)
  | (.error (.failed e), c) => pure (.error e, c.reset)
  | (.error .expired, c) =>
    note (.noResponse c.settings.timeout)
    pure (.error .timeout, c.reset)

end TimedCaller

end BusBridge

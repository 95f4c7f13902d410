import BusBridge.Caller.Clock
import BusBridge.Caller.ResponseSlot
/-!
# Calls over a polled endpoint

A caller sends one request at a time and polls until the response is there. Before a request goes
out the caller settles: what an earlier call left half sent is completed, and what arrived meanwhile
is dropped, so that a late response is not taken for the next one.

Time enters in two ways. A blocking call looks at its deadline after each poll that did not end it;
`late k` is what it sees at its `k`-th look, and its clock decides that. A cooperative call pauses
after each poll that made no progress; `cut k` tells whether its `k`-th pause is cut short by the
timeout.
-/

namespace BusBridge

/-- Why a call failed. -/
inductive CallError where
  /-- the medium failed -/
  | bus (kind : IoKind)
  | answer (e : AnswerError)
  /-- the request does not fit in a frame -/
  | capacity
  /-- something is wrong on the side of the caller -/
  | host (reason : String)
  | timeout
deriving DecidableEq, Repr

namespace CallError

/-- The response is about another address than the request. -/
def addressMismatch : CallError :=
  host "response address mismatch"

/-- The response has another size than requested. -/
def sizeMismatch : CallError :=
  host "response size mismatch"

def message : CallError → String
  | bus _ => "problem with serial bus"
  | answer e => e.message
  | capacity => "request does not fit in a frame"
  | host reason => s!"problem detected on host side: {reason}"
  | timeout => "no response arrived in expected time"

end CallError

/-- What a failure of a medium is to a call. Nothing is asked of it: it may become any error. -/
class CallFailure (φ : Type) where
  toCall : φ → CallError

instance : CallFailure IoKind where
  toCall := .bus

/-- Settings of a caller. -/
structure CallSettings where
  /-- longest time between sending a request and receiving its response -/
  timeout : Duration := ⟨1000⟩
  /-- pause after a poll without progress; none to poll again at once -/
  pollInterval : Option Duration := some ⟨1⟩
  /-- report every frame -/
  dump : Bool := false
deriving DecidableEq, Repr

namespace CallSettings

/-- Number of pauses of zero length that a cooperative call takes without giving way to others. -/
def emptyPauses : Nat := 128

/-- Whether the timeout cuts the `k`-th pause short. Time passes only while pausing, so the pause
after the poll at `k` intervals is cut if the next poll would come after the timeout. The timeout is
looked at only when the call gives way. Without an interval it gives way at each pause, no time
passes, and only a timeout of zero cuts. With an interval of zero that is so too, but the call gives
way only once it has taken `emptyPauses` pauses. -/
def cuts (s : CallSettings) (k : Nat) : Bool :=
  match s.pollInterval with
  | none => s.timeout.milliseconds = 0
  | some interval =>
    if interval.milliseconds = 0 then
      s.timeout.milliseconds = 0 ∧ emptyPauses ≤ k
    else
      s.timeout.milliseconds < (k + 1) * interval.milliseconds

/-- The milliseconds that a cooperative call took over a medium that fails with no timeout of its own: the
timeout if that ended the call, else the time of its whole pauses. -/
def elapsed {α : Type} (s : CallSettings) (pauses : Nat) : Except CallError α → Nat
  | .error .timeout => s.timeout.milliseconds
  | _ =>
    match s.pollInterval with
    | none => 0
    | some interval => pauses * interval.milliseconds

end CallSettings

/-- A caller over a medium, with frames of at most `n` bytes. Its handler is a slot, or something around
one. -/
structure Caller (n : Nat) (δ : Type) (η : Type := ResponseSlot) where
  endpoint : Endpoint n δ η
  settings : CallSettings

namespace Caller

variable {n : Nat} {δ η : Type}

def setLink (c : Caller n δ η) (link : Link n δ) : Caller n δ η :=
  { c with endpoint.link := link }

/-- A caller with the given handler. -/
def attachWith {φ : Type} [Medium δ φ] (n : Nat) (medium : δ) (settings : CallSettings) (handler : η) :
    Run (Caller n δ η) := do
  let endpoint ← Endpoint.attach n medium handler
  pure ⟨if settings.dump then endpoint.enableDump else endpoint, settings⟩

def attach {φ : Type} [Medium δ φ] (n : Nat) (medium : δ) (settings : CallSettings) : Run (Caller n δ) :=
  attachWith n medium settings {}

variable [KeepsSlot η]

def slot (c : Caller n δ η) : ResponseSlot :=
  KeepsSlot.slot c.endpoint.handler

def setSlot (c : Caller n δ η) (slot : ResponseSlot) : Caller n δ η :=
  { c with endpoint.handler := KeepsSlot.setSlot c.endpoint.handler slot }

/-- Stop waiting for a response. -/
def reset (c : Caller n δ η) : Caller n δ η :=
  c.setSlot c.slot.reset

variable {φ : Type} [Medium δ φ] [CallFailure φ] [Handler η]

/-- Poll the endpoint; an oversized frame was skipped, and that is progress. -/
def step (rounds : Nat) (c : Caller n δ η) : Run (Except CallError Bool × Caller n δ η) := do
  let (result, endpoint) ← c.endpoint.poll rounds
  let c := { c with endpoint }
  match result with
  | .ok progress => pure (.ok progress, c)
  | .error (.oversized _) => pure (.ok true, c)
  | .error (.medium failure) => pure (.error (CallFailure.toCall failure), c)

/-- Expect the response to a request and start sending it. -/
def begin (c : Caller n δ η) (channel : UInt8) (r : Request) : Run (Except CallError Unit × Caller n δ η) := do
  let c := c.setSlot (c.slot.expect r.command.component (responseTo r.command.operation))
  match ← c.endpoint.link.sendRequest channel r with
  | (.ok _, link) => pure (.ok (), c.setLink link)
  | (.error _, link) => pure (.error .capacity, (c.setLink link).reset)

/-- Expect the response to a message and start sending it. -/
def beginRaw (c : Caller n δ η) (m : Message) : Run (Except CallError Unit × Caller n δ η) := do
  let c := c.setSlot (c.slot.expect m.component (responseTo m.operation))
  match ← c.endpoint.link.sendMessage m with
  | (.ok _, link) => pure (.ok (), c.setLink link)
  | (.error _, link) => pure (.error .capacity, (c.setLink link).reset)

/-! ## Blocking calls

The state of a waiting loop is the number of looks taken at the deadline, and the caller. -/

/-- Poll; done when nothing is left to send and nothing arrives. -/
def settleTurn (rounds : Nat) (late : Nat → Bool) (s : Nat × Caller n δ η) :
    Run (Turn (Nat × Caller n δ η) (Except CallError Nat × Caller n δ η)) := do
  let (looks, c) := s
  match ← c.step rounds with
  | (.error e, c) => pure (.done (.error e, c))
  | (.ok progress, c) =>
    if !progress && !c.endpoint.isSending then
      pure (.done (.ok looks, c))
    else if late looks then
      note (.stillSending c.settings.timeout)
      pure (.done (.error .timeout, c))
    else
      pure (.again (looks + 1, c))

/-- Drop what arrived, complete what an earlier call left half sent. Gives the number of looks. -/
def settle (rounds : Nat) (late : Nat → Bool) (c : Caller n δ η) : Run (Except CallError Nat × Caller n δ η) :=
  Run.loop (settleTurn rounds late) rounds (0, c.reset)

/-- Poll; done when the expected response is there. -/
def awaitTurn (rounds : Nat) (late : Nat → Bool) (s : Nat × Caller n δ η) :
    Run (Turn (Nat × Caller n δ η) (Except CallError Message × Caller n δ η)) := do
  let (looks, c) := s
  match ← c.step rounds with
  | (.error e, c) => pure (.done (.error e, c.reset))
  | (.ok _, c) =>
    let (response, slot) := c.slot.take
    let c := c.setSlot slot
    match response with
    | some m => pure (.done (.ok m, c))
    | none =>
      if late looks then
        note (.noResponse c.settings.timeout)
        pure (.done (.error .timeout, c.reset))
      else
        pure (.again (looks + 1, c))

/-- Wait for the expected response, after some looks at the deadline. -/
def await (rounds : Nat) (late : Nat → Bool) (looks : Nat) (c : Caller n δ η) :
    Run (Except CallError Message × Caller n δ η) :=
  Run.loop (awaitTurn rounds late) rounds (looks, c)

/-- Settle, start an exchange and wait for its response. -/
def exchange (rounds : Nat) (late : Nat → Bool) (start : Caller n δ η → Run (Except CallError Unit × Caller n δ η))
    (c : Caller n δ η) : Run (Except CallError Message × Caller n δ η) := do
  match ← c.settle rounds late with
  | (.error e, c) => pure (.error e, c)
  | (.ok looks, c) =>
    match ← start c with
    | (.error e, c) => pure (.error e, c)
    | (.ok _, c) => c.await rounds late looks

/-- Send a request and wait for its response. -/
def call (rounds : Nat) (clock : Clock) (c : Caller n δ η) (channel : UInt8) (r : Request) :
    Run (Except CallError Message × Caller n δ η) :=
  clock.within c.settings.timeout fun late => c.exchange rounds late fun c => c.begin channel r

/-- Send a message and wait for the response with its component and the response operation. -/
def callRaw (rounds : Nat) (clock : Clock) (c : Caller n δ η) (m : Message) :
    Run (Except CallError Message × Caller n δ η) :=
  clock.within c.settings.timeout fun late => c.exchange rounds late fun c => c.beginRaw m

/-! ## Cooperative calls

The state of a waiting loop is the number of pauses taken, and the caller. -/

/-- Like `settleTurn`, with pauses in place of looks at a deadline. -/
def settleCoopTurn (rounds : Nat) (cut : Nat → Bool) (s : Nat × Caller n δ η) :
    Run (Turn (Nat × Caller n δ η) (Except CallError Unit × Nat × Caller n δ η)) := do
  let (pauses, c) := s
  match ← c.step rounds with
  | (.error e, c) => pure (.done (.error e, pauses, c))
  | (.ok true, c) => pure (.again (pauses, c))
  | (.ok false, c) =>
    if !c.endpoint.isSending then pure (.done (.ok (), pauses, c))
    else if cut pauses then
      note (.noResponse c.settings.timeout)
      pure (.done (.error .timeout, pauses, c))
    else pure (.again (pauses + 1, c))

/-- Like `awaitTurn`, with pauses in place of looks at a deadline. -/
def awaitCoopTurn (rounds : Nat) (cut : Nat → Bool) (s : Nat × Caller n δ η) :
    Run (Turn (Nat × Caller n δ η) (Except CallError Message × Nat × Caller n δ η)) := do
  let (pauses, c) := s
  match ← c.step rounds with
  | (.error e, c) => pure (.done (.error e, pauses, c))
  | (.ok progress, c) =>
    let (response, slot) := c.slot.take
    let c := c.setSlot slot
    match response with
    | some m => pure (.done (.ok m, pauses, c))
    | none =>
      if progress then pure (.again (pauses, c))
      else if cut pauses then
        note (.noResponse c.settings.timeout)
        pure (.done (.error .timeout, pauses, c))
      else pure (.again (pauses + 1, c))

def exchangeCoop (rounds : Nat) (cut : Nat → Bool) (c : Caller n δ η) (channel : UInt8) (r : Request) :
    Run (Except CallError Message × Nat × Caller n δ η) := do
  match ← Run.loop (settleCoopTurn rounds cut) rounds (0, c.reset) with
  | (.error e, pauses, c) => pure (.error e, pauses, c)
  | (.ok _, pauses, c) =>
    match ← c.begin channel r with
    | (.error e, c) => pure (.error e, pauses, c)
    | (.ok _, c) => Run.loop (awaitCoopTurn rounds cut) rounds (pauses, c)

/-- Send a request and wait for its response, pausing whenever nothing progresses. Gives the number
of whole pauses too. -/
def callCoop (rounds : Nat) (cut : Nat → Bool) (c : Caller n δ η) (channel : UInt8) (r : Request) :
    Run (Except CallError Message × Nat × Caller n δ η) := do
  match ← c.exchangeCoop rounds cut channel r with
  | (.ok m, pauses, c) => pure (.ok m, pauses, c)
  | (.error e, pauses, c) => pure (.error e, pauses, c.reset)

end Caller

end BusBridge

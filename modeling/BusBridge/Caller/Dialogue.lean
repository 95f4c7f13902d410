import BusBridge.Line.Endpoint
/-!
# Conversations run by an endpoint

A conversation decides its next request when the response to the one before arrives. A dialogue runs
it as the handler of an endpoint. A request that is decided while the link is busy waits for the end
of that emission; a later one takes its place. A request that cannot be sent ends the dialogue.
-/

namespace BusBridge

class Conversation (γ : Type) where
  /-- The next step, and the request to send. The first call has no message and opens the
  conversation. -/
  next : γ → Option Message → Trace (γ × Option Message)
  /-- No more requests will be sent. -/
  isFinished : γ → Bool

structure Dialogue (γ : Type) where
  step : γ
  /-- request that waits for the link -/
  pending : Option Message := none
  /-- a request could not be sent -/
  failed : Bool := false

namespace Dialogue

variable {γ : Type}

def isFinished [Conversation γ] (d : Dialogue γ) : Bool :=
  d.failed || Conversation.isFinished d.step

variable {n : Nat} {δ φ : Type} [Medium δ φ]

/-- Send the waiting request if the link is idle. -/
def flush (d : Dialogue γ) (link : Link n δ) : Run (Dialogue γ × Link n δ) := do
  match d.pending with
  | none => pure (d, link)
  | some request =>
    if link.isBusy then
      note .requestWaits
      pure (d, link)
    else
      let d := { d with pending := none }
      match ← link.sendMessage request with
      | (.ok _, link) => pure (d, link)
      | (.error e, link) =>
        note (.requestNotSent e)
        pure ({ d with failed := true }, link)

variable [Conversation γ]

/-- Take the next step, and send the request that it decides. -/
def advance (d : Dialogue γ) (message : Option Message) (link : Link n δ) : Run (Dialogue γ × Link n δ) := do
  let (step, request) ← Conversation.next d.step message
  match request with
  | none => pure ({ d with step }, link)
  | some request =>
    if d.pending.isSome then note .requestReplaced
    { d with step, pending := some request }.flush link

/-- Open the conversation. -/
def start (d : Dialogue γ) (link : Link n δ) : Run (Dialogue γ × Link n δ) :=
  d.advance none link

instance : Handler (Dialogue γ) where
  onMessage d message link := do
    if d.isFinished then
      note (.afterEnd message.header)
      pure (d, link)
    else
      d.advance (some message) link
  onSent d link := d.flush link

end Dialogue

end BusBridge

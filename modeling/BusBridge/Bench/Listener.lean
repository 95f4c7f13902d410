import BusBridge.Bench.Device
import BusBridge.Caller.LightMeter
import BusBridge.Caller.ResponseSlot
/-!
# Handlers on the bench

The handlers of the library, together with one that records what it is given and a conversation that
follows a script.
-/

namespace BusBridge.Bench

/-- Remarks on every message; echoes it if asked to, and sends a queued frame after each frame. -/
structure Recorder where
  echo : Bool
  queue : List Bytes

namespace Recorder

variable {n : Nat} {δ φ : Type} [Medium δ φ]

def onMessage (r : Recorder) (m : Message) (link : Link n δ) : Run (Recorder × Link n δ) := do
  emit (.remark s!"message {Device.describe m}")
  if r.echo then
    match ← link.sendMessage { m with operation := responseTo m.operation } with
    | (.ok _, link) => pure (r, link)
    | (.error e, link) =>
      emit (.remark s!"echo failed: {e.message}")
      pure (r, link)
  else
    pure (r, link)

def onSent (r : Recorder) (link : Link n δ) : Run (Recorder × Link n δ) := do
  emit (.remark "sent")
  match r.queue with
  | [] => pure (r, link)
  | frame :: queue =>
    let r := { r with queue }
    match ← link.send frame with
    | (.ok _, link) => pure (r, link)
    | (.error e, link) =>
      emit (.remark s!"queued failed: {e.message}")
      pure (r, link)

end Recorder

/-- A conversation that sends the next request of a list at each step. -/
structure Talk where
  requests : List (Option Message)

instance : Conversation Talk where
  next t message := do
    match message with
    | none => emit (.remark "transition")
    | some m => emit (.remark s!"transition {Device.describe m}")
    pure (⟨t.requests.tail⟩, t.requests.head?.join)
  isFinished t := t.requests.isEmpty

inductive Listener where
  | recorder (r : Recorder)
  | slot (s : ResponseSlot)
  | light (d : Dialogue LightMeter)
  | talk (d : Dialogue Talk)
  | router (r : Router Device)

namespace Listener

instance : Handler Listener where
  onMessage h m link := do
    match h with
    | recorder r =>
      let (r, link) ← r.onMessage m link
      pure (recorder r, link)
    | slot s =>
      let (s, link) ← Handler.onMessage s m link
      pure (slot s, link)
    | light d =>
      let (d, link) ← Handler.onMessage d m link
      pure (light d, link)
    | talk d =>
      let (d, link) ← Handler.onMessage d m link
      pure (talk d, link)
    | router r =>
      let (r, link) ← Handler.onMessage r m link
      pure (router r, link)
  onSent h link := do
    match h with
    | recorder r =>
      let (r, link) ← r.onSent link
      pure (recorder r, link)
    | light d =>
      let (d, link) ← Handler.onSent d link
      pure (light d, link)
    | talk d =>
      let (d, link) ← Handler.onSent d link
      pure (talk d, link)
    | slot _ | router _ => pure (h, link)

/-- What is left of a handler whose next frame broke a rule: that frame is used up. -/
def spent : Listener → Listener
  | recorder r => recorder { r with queue := r.queue.tail }
  | h => h

/-- Open the conversation of a handler that runs one. -/
def start {n : Nat} {δ φ : Type} [Medium δ φ] (h : Listener) (link : Link n δ) : Run (Listener × Link n δ) := do
  match h with
  | light d =>
    let (d, link) ← d.start link
    pure (light d, link)
  | talk d =>
    let (d, link) ← d.start link
    pure (talk d, link)
  | _ => pure (h, link)

end Listener

end BusBridge.Bench

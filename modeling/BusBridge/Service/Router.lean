import BusBridge.Journal.Counter
import BusBridge.Line.Endpoint
/-!
# Routing requests to services

A service executes the requests addressed to one component and writes its reply, status first, into
the send buffer of the link. The router is the handler of a bridge's endpoint: it finds the service
of each request, lets it reply, and sends the reply as the one response. A request without a
service, of an operation that the service does not know, or that comes while the response before is
still being sent, is counted and dropped. A reply that does not fit is replaced by a failure status.
-/

namespace BusBridge

/-- How a service took a request. -/
inductive Outcome where
  /-- the reply is written and has to be sent -/
  | replied
  /-- the service has no such operation, nothing is sent -/
  | notImplemented
deriving DecidableEq, Repr

/-- The response that a service is writing. -/
structure Reply where
  operation : UInt8
  draft : Draft

namespace Reply

/-- The reply to a request operation, with nothing written yet. -/
def start (operation : UInt8) (block : Bytes) : Reply :=
  ⟨responseTo operation, .start block⟩

def written (r : Reply) : Bytes :=
  r.draft.written

/-- Append pieces one after the other, up to the first that does not fit. -/
def put (r : Reply) (pieces : List Bytes) : Except CapacityError Unit × Reply :=
  let (result, draft) := r.draft.putAll pieces
  (result, { r with draft })

/-- Append a status and what follows it, as the whole reply. -/
def finish (r : Reply) (status : Status) (body : List Bytes) : Except CapacityError Outcome × Reply :=
  let (result, r) := r.put (wire status :: body)
  (result.map fun _ => .replied, r)

/-- Forget everything written. -/
def clear (r : Reply) : Reply :=
  { r with draft := r.draft.clear }

end Reply

class Service (κ : Type) where
  /-- Execute a request and write its reply. -/
  handle : κ → Message → Reply → Trace (Except CapacityError Outcome × Reply × κ)

/-- What became of the requests so far. -/
structure Tally where
  handled : Counter := 0
  unknownComponent : Counter := 0
  unknownOperation : Counter := 0
  overrun : Counter := 0
deriving DecidableEq, Repr

/-- At most `capacity` services, each under the identifier of its component. -/
structure Router (κ : Type) where
  capacity : Nat
  services : List (UInt8 × κ) := []
  tally : Tally := {}

namespace Router

variable {κ : Type}

def get? (r : Router κ) (component : UInt8) : Option κ :=
  r.services.lookup component

/-- Put a service in the place of the one with the same identifier. -/
def update (r : Router κ) (component : UInt8) (service : κ) : Router κ :=
  { r with services := r.services.map fun (id, s) => if id = component then (id, service) else (id, s) }

/-- Add a service. An identifier must not be used twice. -/
def register (r : Router κ) (component : UInt8) (service : κ) : Run (Except CapacityError Unit × Router κ) := do
  if (r.get? component).isSome then Run.stop (.registeredTwice component)
  if r.services.length < r.capacity then
    pure (.ok (), { r with services := r.services ++ [(component, service)] })
  else
    pure (.error {}, r)

variable [Service κ] {n : Nat} {δ φ : Type} [Medium δ φ]

/-- Let a service reply. A reply that does not fit becomes the status of an unknown error. -/
def reply (service : κ) (request : Message) (block : Bytes) : Trace (Outcome × Reply × κ) := do
  match ← Service.handle service request (.start request.operation block) with
  | (.ok outcome, reply, service) => pure (outcome, reply, service)
  | (.error _, reply, service) =>
    note (.replyTooLong request.header)
    let reply := { reply.clear with operation := responseTo request.operation }
    pure (.replied, (reply.put [wire Status.unknownError]).2, service)

/-- Route a request, and send the response of its service. -/
def dispatch (r : Router κ) (request : Message) (link : Link n δ) : Run (Router κ × Link n δ) := do
  match r.get? request.component with
  | none =>
    note (.noService request.component)
    pure ({ r with tally.unknownComponent := r.tally.unknownComponent.plus 1 }, link)
  | some service =>
    if link.isBusy then
      note .overrun
      pure ({ r with tally.overrun := r.tally.overrun.plus 1 }, link)
    else
      note (.routed request.header)
      let (outcome, reply, service) ← Router.reply service request link.payload
      let r := r.update request.component service
      let link := link.writePayload reply.draft.block
      match outcome with
      | .notImplemented =>
        note (.noOperation request.component request.operation)
        pure ({ r with tally.unknownOperation := r.tally.unknownOperation.plus 1 }, link)
      | .replied =>
        let r := { r with tally.handled := r.tally.handled.plus 1 }
        match ← link.commit request.component reply.operation request.channel reply.draft.length with
        | (.ok _, link) => pure (r, link)
        | (.error e, link) =>
          note (.replyNotSent e)
          pure (r, link)

instance : Handler (Router κ) where
  onMessage r request link := r.dispatch request link

end Router

end BusBridge

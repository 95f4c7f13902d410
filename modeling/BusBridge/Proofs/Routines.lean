import BusBridge.Caller.Dialogue
import BusBridge.Caller.ResponseSlot
import BusBridge.Service.Router
/-!
# What is done with a link

Whoever has a link in hand, a handler or the owner of its endpoint, can look at it, turn to the medium behind it,
write a payload in place, and start a frame. A `Link.Routine` is a program of these. It sees all of the link except
whether frames are reported (`Link.quiet`), since no operation of a link tells.

A handler is `Scripted` if each of its calls is the run of a routine. The handlers of the library are.
-/

namespace BusBridge

namespace Link

variable {n : Nat} {δ : Type}

/-- The link, reporting its frames or not. -/
def reporting (on : Bool) (l : Link n δ) : Link n δ :=
  { l with dump := on }

/-- The link as it is seen from outside, where nobody can tell whether it reports its frames. -/
def quiet (l : Link n δ) : Link n δ :=
  l.reporting false

/-- Something that is done with a link, with a value in the end. -/
inductive Routine (n : Nat) (δ α : Type) where
  | done (a : α)
  | stop (fault : Fault)
  /-- things that happen elsewhere -/
  | say (events : List Event) (next : Routine n δ α)
  | look (next : Link n δ → Routine n δ α)
  /-- turn to the medium, and leave it like this -/
  | touch (medium : δ) (next : Routine n δ α)
  /-- write a payload in place -/
  | write (data : Bytes) (next : Routine n δ α)
  | send (frame : Bytes) (next : Except TooLarge Unit → Routine n δ α)
  | commit (component operation channel : UInt8) (length : Nat) (next : Except TooLarge Unit → Routine n δ α)

namespace Routine

variable {α β : Type}

/-- A notice, then the rest. -/
def note (notice : Notice) (next : Routine n δ α) : Routine n δ α :=
  say [.notice notice] next

/-- Work that breaks no rule, then the rest. -/
def trace (t : Trace β) (next : β → Routine n δ α) : Routine n δ α :=
  say t.events (next t.value)

/-- Frame and send a message. -/
def message (m : Message) (next : Except TooLarge Unit → Routine n δ α) : Routine n δ α :=
  look fun l =>
    if l.isBusy then stop .busy
    else if m.payload.length > n - Header.size then next (.error ⟨Header.size + m.payload.length, n⟩)
    else write m.payload (commit m.component m.operation m.channel m.payload.length next)

/-- Write a request in place and send it. -/
def request (channel : UInt8) (r : Request) (next : Except CapacityError Unit → Routine n δ α) : Routine n δ α :=
  look fun l =>
    match (Draft.start l.payload).encode r.pieces with
    | (.error e, draft) => write draft.block (next (.error e))
    | (.ok _, draft) => write draft.block <|
      commit r.command.component r.command.operation channel draft.length fun result =>
        next (result.mapError fun _ => {})

variable {φ : Type} [Medium δ φ]

def run : Routine n δ α → Link n δ → Run (α × Link n δ)
  | done a, l => pure (a, l)
  | stop fault, _ => Run.stop fault
  | say events next, l => do
    Run.ofTrace ⟨events, ()⟩
    next.run l
  | look next, l => (next l.quiet).run l
  | touch medium next, l => next.run { l with medium }
  | write data next, l => do
    l.requireIdle
    next.run (l.writePayload data)
  | send frame next, l => do
    let (result, l) ← l.send frame
    (next result).run l
  | commit component operation channel length next, l => do
    let (result, l) ← l.commit component operation channel length
    (next result).run l

variable {l : Link n δ}

theorem run_note (notice : Notice) (next : Routine n δ α) (l : Link n δ) :
    (note notice next).run l = Run.ofTrace (BusBridge.note notice) >>= fun _ => next.run l := rfl

theorem run_trace (t : Trace β) (next : β → Routine n δ α) (l : Link n δ) :
    (trace t next).run l = Run.ofTrace t >>= fun b => (next b).run l := rfl

theorem run_write {data : Bytes} {next : Routine n δ α} (h : l.isBusy = false) :
    (write data next).run l = next.run (l.writePayload data) := by
  show l.requireIdle >>= _ = _
  rw [requireIdle, h]
  exact pure_bind _ _

theorem run_message (m : Message) (next : Except TooLarge Unit → Routine n δ α) (l : Link n δ) :
    (message m next).run l = l.sendMessage m >>= fun r => (next r.1).run r.2 := by
  show ((if l.isBusy then stop .busy else _ : Routine n δ α)).run l = _
  unfold sendMessage commitPayload requireIdle
  cases hbusy : l.isBusy with
  | true => rfl
  | false =>
    simp only [Bool.false_eq_true, if_false, pure_bind]
    split
    · exact (pure_bind _ _).symm
    · exact run_write hbusy

theorem run_request (channel : UInt8) (r : Request) (next : Except CapacityError Unit → Routine n δ α) (l : Link n δ) :
    (request channel r next).run l = l.sendRequest channel r >>= fun r => (next r.1).run r.2 := by
  show Routine.run (match (Draft.start l.payload).encode r.pieces with | (.error e, draft) => _ | (.ok _, draft) => _)
    l = _
  unfold sendRequest
  rcases (Draft.start l.payload).encode r.pieces with ⟨error | _, draft⟩ <;> simp only [run, bind_assoc, pure_bind]

end Routine

end Link

/-- Each call of the handler is the run of a routine. -/
class Scripted (η : Type) [Handler η] where
  message {n : Nat} {δ φ : Type} [Medium δ φ] : η → Message → Link.Routine n δ η
  report {n : Nat} {δ φ : Type} [Medium δ φ] : η → Link.Routine n δ η
  onMessage : ∀ {n : Nat} {δ φ : Type} [Medium δ φ] (h : η) (m : Message) (l : Link n δ),
    Handler.onMessage h m l = (message h m).run l
  onSent : ∀ {n : Nat} {δ φ : Type} [Medium δ φ] (h : η) (l : Link n δ), Handler.onSent h l = (report h).run l

instance : Scripted ResponseSlot where
  message s m := .trace (s.receive m) .done
  report s := .done s
  onMessage _ _ _ := rfl
  onSent _ _ := rfl

namespace Router

variable {κ δ : Type} {n : Nat} [Service κ] {φ : Type} [Medium δ φ]

def routine (r : Router κ) (request : Message) : Link.Routine n δ (Router κ) :=
  match r.get? request.component with
  | none =>
    .note (.noService request.component) <|
    .done { r with tally.unknownComponent := r.tally.unknownComponent.plus 1 }
  | some service => .look fun link =>
    if link.isBusy then
      .note .overrun <| .done { r with tally.overrun := r.tally.overrun.plus 1 }
    else
      .note (.routed request.header) <|
      .trace (Router.reply service request link.payload) fun (outcome, reply, service) =>
      .write reply.draft.block <|
      let r := r.update request.component service
      match outcome with
      | .notImplemented =>
        .note (.noOperation request.component request.operation) <|
        .done { r with tally.unknownOperation := r.tally.unknownOperation.plus 1 }
      | .replied =>
        let r := { r with tally.handled := r.tally.handled.plus 1 }
        .commit request.component reply.operation request.channel reply.draft.length fun
          | .ok _ => .done r
          | .error e => .note (.replyNotSent e) (.done r)

theorem run_routine (r : Router κ) (request : Message) (l : Link n δ) :
    r.dispatch request l = (r.routine request).run l := by
  unfold dispatch routine
  cases r.get? request.component with
  | none => rfl
  | some service =>
    show _ = Link.Routine.run (if l.isBusy then _ else _) l
    cases hbusy : l.isBusy with
    | true => rfl
    | false =>
      simp only [Bool.false_eq_true, if_false]
      rw [Link.Routine.run_note]
      refine bind_congr fun _ => ?_
      rw [Link.Routine.run_trace]
      refine bind_congr ?_
      rintro ⟨outcome, reply, service⟩
      rw [Link.Routine.run_write hbusy]
      cases outcome with
      | notImplemented => rfl
      | replied =>
        refine bind_congr ?_
        rintro ⟨result, link⟩
        cases result <;> rfl

instance : Scripted (Router κ) where
  message := routine
  report r := .done r
  onMessage := run_routine
  onSent _ _ := rfl

end Router

namespace Dialogue

variable {γ δ : Type} {n : Nat} {φ : Type} [Medium δ φ]

def flushing (d : Dialogue γ) : Link.Routine n δ (Dialogue γ) :=
  match d.pending with
  | none => .done d
  | some request => .look fun link =>
    if link.isBusy then
      .note .requestWaits (.done d)
    else
      let d := { d with pending := none }
      .message request fun
        | .ok _ => .done d
        | .error e => .note (.requestNotSent e) (.done { d with failed := true })

theorem run_flushing (d : Dialogue γ) (l : Link n δ) : d.flush l = d.flushing.run l := by
  unfold flush flushing
  cases d.pending with
  | none => rfl
  | some request =>
    show _ = Link.Routine.run (if l.isBusy then _ else _) l
    cases l.isBusy with
    | true => rfl
    | false =>
      simp only [Bool.false_eq_true, if_false]
      rw [Link.Routine.run_message]
      refine bind_congr ?_
      rintro ⟨result, link⟩
      cases result <;> rfl

variable [Conversation γ]

def advancing (d : Dialogue γ) (message : Option Message) : Link.Routine n δ (Dialogue γ) :=
  .trace (Conversation.next d.step message) fun (step, request) =>
  match request with
  | none => .done { d with step }
  | some request =>
    if d.pending.isSome then .note .requestReplaced { d with step, pending := some request }.flushing
    else { d with step, pending := some request }.flushing

theorem run_advancing (d : Dialogue γ) (message : Option Message) (l : Link n δ) :
    d.advance message l = (d.advancing message).run l := by
  rw [advancing, Link.Routine.run_trace]
  refine bind_congr ?_
  rintro ⟨step, request⟩
  cases request with
  | none => rfl
  | some request =>
    have hflush := run_flushing { d with step, pending := some request } l
    cases d.pending.isSome with
    | true => exact bind_congr fun _ => hflush
    | false => exact hflush

instance : Scripted (Dialogue γ) where
  message d m := if d.isFinished then .note (.afterEnd m.header) (.done d) else d.advancing (some m)
  report := flushing
  onMessage d m l := by
    show (if d.isFinished then _ else _) = Link.Routine.run (if d.isFinished then _ else _) l
    cases d.isFinished with
    | true => rfl
    | false => exact run_advancing d (some m) l
  onSent := run_flushing

end Dialogue

end BusBridge

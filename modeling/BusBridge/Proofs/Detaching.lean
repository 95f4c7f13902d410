import BusBridge.Proofs.Watching
/-!
# Endpoints without their medium

A handler is the same on every line. What it makes of a message depends on the link, on its buffer and on whether it is
busy, but not on the medium below. `Endpoint.detach` forgets the medium of an endpoint, and a handler is `Portable` if
that makes no difference to it; then it makes none to what the endpoint does with a block that it received
(`Endpoint.blockReceived_detach`). So endpoints on different media can be compared.

A handler that `AnswersOnly` starts frames for the messages it is given, and none when it is told that one was sent.
-/

namespace BusBridge

namespace Link

variable {n : Nat} {δ : Type}

/-- The link without its medium. -/
def detach (l : Link n δ) : Link n Detached :=
  { l with medium := ⟨⟩ }

@[simp] theorem armed?_detach (l : Link n δ) : l.detach.armed? = l.armed? := rfl

@[simp] theorem sending_detach (l : Link n δ) : l.detach.sending = l.sending := rfl

variable {φ : Type} [Medium δ φ]

theorem commit_detach (l : Link n δ) (component operation channel : UInt8) (length : Nat) :
    (l.detach.commit component operation channel length).result =
      (l.commit component operation channel length).result.map fun r => (r.1, r.2.detach) := by
  cases hsending : l.sending with
  | some size =>
    have hbusy : l.requireIdle.result = .error .busy := by rw [requireIdle, isBusy, hsending]; rfl
    have hbusy' : l.detach.requireIdle.result = .error .busy := hbusy
    simp only [commit, Run.result_bind, hbusy, hbusy']
    rfl
  | none =>
    have hidle := requireIdle_idle hsending
    have hidle' : l.detach.requireIdle.result = .ok () := hidle
    simp only [commit, Run.result_bind, hidle, hidle', Outcomes.ok_bind]
    by_cases hfull : length > n - Header.size ∨ length > maxPayload
    · simp only [if_pos hfull, Run.result_pure]
      rfl
    · simp only [if_neg hfull, Run.result_bind, Run.result_lift, Outcomes.ok_bind, start_value, Run.result_pure]
      rfl

end Link

/-- The handler does the same on every medium. -/
class Portable (η : Type) [Handler η] : Prop where
  onMessage : ∀ {n : Nat} {δ φ : Type} [Medium δ φ] (h : η) (m : Message) (l : Link n δ),
    (Handler.onMessage h m l.detach).result = (Handler.onMessage h m l).result.map fun r => (r.1, r.2.detach)
  onSent : ∀ {n : Nat} {δ φ : Type} [Medium δ φ] (h : η) (l : Link n δ),
    (Handler.onSent h l.detach).result = (Handler.onSent h l).result.map fun r => (r.1, r.2.detach)

/-- The handler leaves the link alone when it is told that a frame was sent. -/
class AnswersOnly (η : Type) [Handler η] : Prop where
  onSent : ∀ {n : Nat} {δ φ : Type} [Medium δ φ] {h h' : η} {l l' : Link n δ},
    (Handler.onSent h l).result = .ok (h', l') → l' = l

instance : AnswersOnly ResponseSlot where
  onSent hrun := by
    cases hrun
    rfl

section Router

variable {κ : Type} [Service κ]

instance : AnswersOnly (Router κ) where
  onSent hrun := by
    cases hrun
    rfl

instance : Portable (Router κ) where
  onMessage {n δ _ _} r m l := by
    change (r.dispatch m l.detach).result = (r.dispatch m l).result.map _
    unfold Router.dispatch
    cases r.get? m.component with
    | none => rfl
    | some service =>
      cases hsending : l.sending with
      | some size =>
        have hbusy : l.isBusy = true := by rw [Link.isBusy, hsending]; rfl
        have hbusy' : l.detach.isBusy = true := hbusy
        simp only [hbusy, hbusy', if_true]
        rfl
      | none =>
        have hfree : l.isBusy = false := by rw [Link.isBusy, hsending]; rfl
        have hfree' : l.detach.isBusy = false := hfree
        have hpayload : l.detach.payload = l.payload := rfl
        simp only [hfree, hfree', hpayload, Bool.false_eq_true, if_false, Run.result_bind, Run.result_lift,
          Outcomes.ok_bind]
        rcases (Router.reply service m l.payload).value with ⟨outcome, reply, service'⟩
        cases outcome with
        | notImplemented => rfl
        | replied =>
          have hcommit := (l.writePayload reply.draft.block).commit_detach m.component reply.operation m.channel
            reply.draft.length
          have hwritten : l.detach.writePayload reply.draft.block = (l.writePayload reply.draft.block).detach := rfl
          simp only [Run.result_bind, hwritten, hcommit]
          rcases ((l.writePayload reply.draft.block).commit m.component reply.operation m.channel
            reply.draft.length).result with fault | ⟨result, l'⟩
          · rfl
          · cases result <;> rfl
  onSent r l := rfl

end Router

section Watched

variable {η : Type} [Handler η]

instance [UsesLink η] : UsesLink (Watched η) where
  onMessage hrun := UsesLink.onMessage (Watched.onMessage_ok hrun).1
  onSent hrun := UsesLink.onSent (Watched.onSent_ok hrun).1

instance [AnswersOnly η] : AnswersOnly (Watched η) where
  onSent hrun := AnswersOnly.onSent (Watched.onSent_ok hrun).1

instance [Portable η] : Portable (Watched η) where
  onMessage w m l := by
    simp only [Handler.onMessage, Run.result_bind, Portable.onMessage w.handler m l]
    rcases (Handler.onMessage w.handler m l).result with fault | ⟨handler, l'⟩ <;> rfl
  onSent w l := by
    simp only [Handler.onSent, Run.result_bind, Portable.onSent w.handler l]
    rcases (Handler.onSent w.handler l).result with fault | ⟨handler, l'⟩ <;> rfl

end Watched

namespace Endpoint

variable {n : Nat} {δ η : Type}

/-- The endpoint without its medium. -/
def detach (e : Endpoint n δ η) : Endpoint n Detached η :=
  { e with link := e.link.detach }

variable {φ : Type} [Medium δ φ] [Handler η] [Portable η] (e : Endpoint n δ η)

theorem deliver_detach (h : Header) : (e.detach.deliver h).result = (e.deliver h).result.map detach := by
  rw [deliver_result, deliver_result]
  change (Handler.onMessage e.handler ⟨h.component, h.operation, h.channel,
    (e.inbox.slice 0 (Header.size + h.length.toNat)).drop Header.size⟩ e.link.detach).result >>= _ = _
  rw [Portable.onMessage]
  rcases (Handler.onMessage e.handler _ e.link).result with fault | ⟨handler, link⟩ <;> rfl

theorem blockReceived_detach :
    e.detach.blockReceived.result = e.blockReceived.result.map fun r => (r.1, r.2.detach) := by
  have hverdict : e.detach.verdict = e.verdict := rfl
  have hheader : e.detach.header = e.header := rfl
  rw [blockReceived_result, blockReceived_result, hverdict, hheader]
  cases e.verdict with
  | deliver =>
    simp only [deliver_detach]
    rcases (e.deliver e.header).result with fault | e₁ <;> rfl
  | refuse length => rfl
  | proceed reception => rfl

end Endpoint

end BusBridge

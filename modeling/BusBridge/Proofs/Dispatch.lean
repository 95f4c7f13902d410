import BusBridge.Proofs.Emission
/-!
# What a bridge makes of a request

`Desk.serve` is what a bridge has to do with a request, without any line: find the service, let it
reply, and turn the reply into a response. What it needs for that is a `Desk`, the services and the
space in which replies are written; both may be changed by the request, and the next one meets them as
they are then. A request without a response is one that no service takes, or whose reply fits no frame.

The router does that on a line. What it can do with a request is said once, by `Router.Settles`. On an idle
link it starts exactly the response, and its desk is then the one that serving leaves
(`Router.dispatch_idle`).
-/

namespace BusBridge

/-- The services of a bridge and the space in which they write their replies. -/
structure Desk (κ : Type) where
  router : Router κ
  block : Bytes

namespace Desk

variable {κ : Type} [Service κ]

/-- The response to a request, and the desk after it. -/
def serve (d : Desk κ) (m : Message) : Option (Message × Desk κ) :=
  match d.router.get? m.component with
  | none => none
  | some service =>
    match (Router.reply service m d.block).value with
    | (.notImplemented, _, _) => none
    | (.replied, reply, service) =>
      if reply.draft.length ≤ d.block.length ∧ reply.draft.length ≤ maxPayload then
        let router := d.router.update m.component service
        some (⟨m.component, reply.operation, m.channel, reply.written⟩,
          ⟨{ router with tally.handled := d.router.tally.handled.plus 1 }, Bytes.overlay d.block 0 reply.draft.block⟩)
      else
        none

/-- The responses to requests one after the other, if all of them have one, and the desk after them. -/
def serveAll (d : Desk κ) : List Message → Option (List Message × Desk κ)
  | [] => some ([], d)
  | m :: rest => do
    let (response, d) ← d.serve m
    let (responses, d) ← d.serveAll rest
    pure (response :: responses, d)

/-- A reply that fits becomes the response. -/
theorem serve_replied {d : Desk κ} {m : Message} {service service' : κ} {reply : Reply}
    (hget : d.router.get? m.component = some service)
    (hreply : (Router.reply service m d.block).value = (.replied, reply, service'))
    (hfits : reply.draft.length ≤ d.block.length ∧ reply.draft.length ≤ maxPayload) :
    ∃ d', d.serve m = some (⟨m.component, reply.operation, m.channel, reply.written⟩, d') := by
  apply Exists.intro
  simp only [serve, hget, hreply, if_pos hfits]
  rfl

/-- Serving counts one request as handled, and nothing else. -/
theorem serve_tally {d d' : Desk κ} {m response : Message} (h : d.serve m = some (response, d')) :
    d'.router.tally = { d.router.tally with handled := d.router.tally.handled.plus 1 } := by
  unfold serve at h
  split at h
  · cases h
  · split at h
    · cases h
    · split at h
      · cases h
        rfl
      · cases h

/-- A response fits a frame. -/
theorem serve_max {d d' : Desk κ} {m response : Message} (h : d.serve m = some (response, d')) :
    response.payload.length ≤ maxPayload := by
  unfold serve at h
  split at h
  · cases h
  · split at h
    · cases h
    · split at h
      next hfits =>
        cases h
        exact (Draft.length_written _).symm ▸ hfits.2
      next => cases h

theorem serveAll_tally {d d' : Desk κ} {requests responses : List Message}
    (h : d.serveAll requests = some (responses, d')) :
    d'.router.tally = { d.router.tally with handled := d.router.tally.handled.plus requests.length } := by
  induction requests generalizing d responses with
  | nil =>
    cases h
    rw [List.length_nil, Counter.plus_zero]
  | cons m rest ih =>
    obtain ⟨⟨response, d₁⟩, hserve, hrest⟩ := Option.bind_eq_some_iff.mp h
    obtain ⟨⟨later, d₂⟩, hlater, hlast⟩ := Option.bind_eq_some_iff.mp hrest
    cases hlast
    rw [ih hlater, serve_tally hserve, List.length_cons, Counter.plus_plus, Nat.add_comm 1]

end Desk

namespace Router

variable {κ δ : Type} {n : Nat} [Service κ] {φ : Type} [Medium δ φ]

/-- What a router does with a request that finds its link as it is: one of its counts goes up, and the link is
written to or busy only if a service replied. -/
inductive Settles (r : Router κ) (m : Message) (l : Link n δ) : Router κ → Link n δ → Prop where
  /-- nobody takes the request -/
  | unknownComponent : r.get? m.component = none →
      Settles r m l { r with tally.unknownComponent := r.tally.unknownComponent.plus 1 } l
  /-- the response before is still being sent -/
  | overrun {service : κ} : r.get? m.component = some service → l.isBusy = true →
      Settles r m l { r with tally.overrun := r.tally.overrun.plus 1 } l
  /-- the service does not know the operation -/
  | unknownOperation {service service' : κ} {reply : Reply} : r.get? m.component = some service → l.sending = none →
      (Router.reply service m l.payload).value = (.notImplemented, reply, service') →
      Settles r m l
        { r.update m.component service' with tally.unknownOperation := r.tally.unknownOperation.plus 1 }
        (l.writePayload reply.draft.block)
  /-- the reply is sent -/
  | response {service service' : κ} {reply : Reply} {l' : Link n δ} : r.get? m.component = some service →
      (Router.reply service m l.payload).value = (.replied, reply, service') →
      l'.payload = Bytes.overlay l.payload 0 reply.draft.block →
      l.Carries l' ⟨m.component, reply.operation, m.channel, reply.written⟩ →
      Settles r m l { r.update m.component service' with tally.handled := r.tally.handled.plus 1 } l'
  /-- the reply fits no frame -/
  | unsent {service service' : κ} {reply : Reply} : r.get? m.component = some service → l.sending = none →
      (Router.reply service m l.payload).value = (.replied, reply, service') →
      ¬(reply.draft.length ≤ n - Header.size ∧ reply.draft.length ≤ maxPayload) →
      Settles r m l { r.update m.component service' with tally.handled := r.tally.handled.plus 1 }
        (l.writePayload reply.draft.block)

/-- A router returns, and does one of these. -/
theorem dispatch_settles (r : Router κ) (m : Message) (l : Link n δ) (hn : Header.size < n) :
    ∃ r' l', (r.dispatch m l).result = .ok (r', l') ∧ r.Settles m l r' l' := by
  unfold dispatch
  cases hget : r.get? m.component with
  | none => exact ⟨_, _, rfl, .unknownComponent hget⟩
  | some service =>
    cases hsending : l.sending with
    | some size =>
      have hbusy : l.isBusy = true := by
        rw [Link.isBusy, hsending]
        rfl
      simp only [hbusy, if_true]
      exact ⟨_, _, rfl, .overrun hget hbusy⟩
    | none =>
      have hbusy : l.isBusy = false := by
        rw [Link.isBusy, hsending]
        rfl
      simp only [hbusy, Bool.false_eq_true, if_false, Run.result_bind, Run.result_lift, Outcomes.ok_bind]
      rcases hreply : (Router.reply service m l.payload).value with ⟨outcome, reply, service'⟩
      cases outcome with
      | notImplemented => exact ⟨_, _, rfl, .unknownOperation hget hsending hreply⟩
      | replied =>
        obtain ⟨_, _, l', hresult, hpayload, hcarries⟩ | ⟨hfull, hresult⟩ :=
          l.commit_writePayload m.component reply.operation m.channel hn hsending reply.draft.length_le
        · simp only [Run.result_bind, hresult, Outcomes.ok_bind]
          exact ⟨_, _, rfl, .response hget hreply hpayload hcarries⟩
        · simp only [Run.result_bind, hresult, Outcomes.ok_bind]
          exact ⟨_, _, rfl, .unsent hget hsending hreply hfull⟩

/-- On an idle link a request is served, and its response is started. -/
theorem dispatch_idle (r : Router κ) (m : Message) {l : Link n δ} (hn : Header.size < n) (hidle : l.sending = none) :
    ∃ r' l', (r.dispatch m l).result = .ok (r', l') ∧
      ((∃ response d', (⟨r, l.payload⟩ : Desk κ).serve m = some (response, d') ∧ r' = d'.router ∧
          l'.payload = d'.block ∧ l.Carries l' response) ∨
        ((⟨r, l.payload⟩ : Desk κ).serve m = none ∧ l'.sending = none ∧ l'.medium = l.medium)) := by
  obtain ⟨r', l', hresult, hsettles⟩ := r.dispatch_settles m l hn
  refine ⟨r', l', hresult, ?_⟩
  have hlength := l.length_payload
  cases hsettles with
  | unknownComponent hget => exact .inr ⟨by simp only [Desk.serve, hget], hidle, rfl⟩
  | overrun hget hbusy =>
    rw [Link.isBusy, hidle] at hbusy
    cases hbusy
  | unknownOperation hget _ hreply => exact .inr ⟨by simp only [Desk.serve, hget, hreply], hidle, rfl⟩
  | @response service service' reply l' hget hreply hpayload hcarries =>
    have hfits : reply.draft.length ≤ l.payload.length ∧ reply.draft.length ≤ maxPayload := by
      rw [hlength, ← Draft.length_written]
      exact ⟨hcarries.fits, hcarries.max⟩
    refine .inl ⟨_, ⟨{ r.update m.component service' with tally.handled := r.tally.handled.plus 1 },
      Bytes.overlay l.payload 0 reply.draft.block⟩, ?_, rfl, hpayload, hcarries⟩
    simp only [Desk.serve, hget, hreply, if_pos hfits]
  | unsent hget _ hreply hfull =>
    rw [← hlength] at hfull
    exact .inr ⟨by simp only [Desk.serve, hget, hreply, if_neg hfull], hidle, rfl⟩

/-- A router sends responses and does nothing else to its link, and it always returns. -/
theorem dispatch_emits (r : Router κ) (m : Message) (l : Link n δ) (hn : Header.size < n) :
    ∃ r' l', (r.dispatch m l).result = .ok (r', l') ∧ Medium.Emits l.medium l'.medium := by
  obtain ⟨r', l', hresult, hsettles⟩ := r.dispatch_settles m l hn
  refine ⟨r', l', hresult, ?_⟩
  cases hsettles with
  | response _ _ _ hcarries => exact hcarries.medium ▸ .armSend _ .refl
  | unknownComponent | overrun | unknownOperation | unsent => exact .refl

instance : SendsOnly (Router κ) where
  onMessage {n δ _ _ h h' m l l'} hn hrun := by
    obtain ⟨r', l'', hresult, hemits⟩ := h.dispatch_emits m l hn
    cases hresult.symm.trans hrun
    exact hemits
  onSent {n δ _ _ h h' l l'} _ hrun := by
    cases hrun
    exact .refl

theorem returns : HandlerReturns (Router κ) := by
  intro n δ _ _ hn h l
  refine ⟨fun m => ?_, ⟨_, rfl⟩⟩
  obtain ⟨r', l', hresult, _⟩ := h.dispatch_emits m l hn
  exact ⟨_, hresult⟩

end Router

end BusBridge

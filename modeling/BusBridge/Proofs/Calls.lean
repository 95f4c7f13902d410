import BusBridge.Caller.Call
import BusBridge.Proofs.Polling
/-!
# The parts of a call

A call settles, begins, and waits. Settling and waiting only poll, so what they do to the endpoint is some
number of polls (`Caller.Polls`), and what every poll keeps they keep too. Beginning puts exactly one frame
on the link and makes the slot wait for its response (`Caller.Begins`), or it is refused.

A call can be made in three ways: blocking, by a request or by a message as it is, or cooperative. `Demand` is
any of them, and `Demand.run_met` takes its run apart at the moment at which its frame was started. Settling that
goes well leaves the link idle, so no call breaks a rule of use (`Demand.run_returns`).
-/

namespace BusBridge

/-- A slot without a response has none to take. -/
theorem ResponseSlot.take_none {slot : ResponseSlot} (h : slot.response = none) : slot.take.2 = slot := by
  rcases slot with ⟨expected, response, ignored⟩
  cases h
  rfl

theorem Endpoint.sending_eq_none {n : Nat} {δ η : Type} {e : Endpoint n δ η} (h : (!e.isSending) = true) :
    e.link.sending = none := by
  rw [Bool.not_eq_true', isSending, Link.isBusy, Option.isSome_eq_false_iff, Option.isNone_iff_eq_none] at h
  exact h

namespace Caller

variable {n : Nat} {δ η : Type}

/-! ## Polls -/

section Polling

variable {φ : Type} [Medium δ φ] [Handler η] {c c' : Caller n δ η} {rounds : Nat}

/-- The medium fails in a poll, in a way that is the given error to a call. -/
def Breaks [CallFailure φ] (rounds : Nat) (e : Endpoint n δ η) (error : CallError) : Prop :=
  ∃ failure e', (e.poll rounds).result = .ok (.error (.medium failure), e') ∧ CallFailure.toCall failure = error

/-- A step is a poll of the endpoint, and fails as its medium does. -/
theorem step_poll [CallFailure φ] {result : Except CallError Bool} (h : (c.step rounds).result = .ok (result, c')) :
    (∃ polled, (c.endpoint.poll rounds).result = .ok (polled, c'.endpoint)) ∧
      ∀ error, result = .error error → Breaks rounds c.endpoint error := by
  obtain ⟨⟨polled, endpoint⟩, hpoll, hrest⟩ := Run.result_bind_eq_ok.mp h
  rcases polled with error | progress
  · cases error with
    | medium failure =>
      cases hrest
      refine ⟨⟨_, hpoll⟩, fun error herror => ?_⟩
      cases herror
      exact ⟨failure, endpoint, hpoll, rfl⟩
    | oversized o =>
      cases hrest
      exact ⟨⟨_, hpoll⟩, fun _ herror => nomatch herror⟩
  · cases hrest
    exact ⟨⟨_, hpoll⟩, fun _ herror => nomatch herror⟩

/-- A step fails if the medium does. -/
theorem Breaks.step [CallFailure φ] {error : CallError} (h : Breaks rounds c.endpoint error) :
    ∃ c', (c.step rounds).result = .ok (.error error, c') := by
  obtain ⟨failure, e, hpoll, rfl⟩ := h
  exact ⟨_, Run.result_bind_eq_ok.mpr ⟨_, hpoll, rfl⟩⟩

/-- The second endpoint is the first one after some polls. -/
inductive Polls (rounds : Nat) (e : Endpoint n δ η) : Endpoint n δ η → Prop where
  | refl : Polls rounds e e
  | poll {e₁ e₂ : Endpoint n δ η} {polled : Except (PollError φ) Bool} : Polls rounds e e₁ →
      (e₁.poll rounds).result = .ok (polled, e₂) → Polls rounds e e₂

theorem Polls.keeps (Inv : Endpoint n δ η → Prop)
    (poll : ∀ e polled e', Inv e → (e.poll rounds).result = .ok (polled, e') → Inv e')
    {e e' : Endpoint n δ η} (h : Polls rounds e e') (start : Inv e) : Inv e' := by
  induction h with
  | refl => exact start
  | poll _ hpoll ih => exact poll _ _ _ ih hpoll

/-- The turn of a loop over a caller polls the endpoint once. The loop goes on with the endpoint as it is
then, or leaves it in the given way. -/
def PollsOnce {S R : Type} (rounds : Nat) (caller : S → Caller n δ η) (leaves : R → Endpoint n δ η → Prop) (s : S)
    (turn : Turn S R) : Prop :=
  ∃ polled e, ((caller s).endpoint.poll rounds).result = .ok (polled, e) ∧
    match turn with
    | .again s' => (caller s').endpoint = e
    | .done r => leaves r e

/-- A loop of such turns polls, and leaves the last endpoint in the given way. -/
theorem loop_polls {S R : Type} {caller : S → Caller n δ η} {leaves : R → Endpoint n δ η → Prop}
    {body : S → Run (Turn S R)} (turn : ∀ s t, (body s).result = .ok t → PollsOnce rounds caller leaves s t)
    {limit : Nat} {s : S} {r : R} (h : (Run.loop body limit s).result = .ok r) :
    ∃ e, Polls rounds (caller s).endpoint e ∧ leaves r e := by
  refine Run.loop_induction (fun s' => Polls rounds (caller s).endpoint (caller s').endpoint)
    (fun r => ∃ e, Polls rounds (caller s).endpoint e ∧ leaves r e)
    (fun s' s'' hs hturn => ?_) (fun s' r hs hturn => ?_) .refl h
  · obtain ⟨polled, e, hpoll, rfl⟩ := turn _ _ hturn
    exact .poll hs hpoll
  · obtain ⟨polled, e, hpoll, hleaves⟩ := turn _ _ hturn
    exact ⟨e, .poll hs hpoll, hleaves⟩

variable [CallFailure φ]

theorem settleTurn_polls {late : Nat → Bool} {s : Nat × Caller n δ η}
    {turn : Turn (Nat × Caller n δ η) (Except CallError Nat × Caller n δ η)}
    (h : (settleTurn rounds late s).result = .ok turn) :
    PollsOnce rounds Prod.snd (fun r e => r.2.endpoint = e) s turn := by
  obtain ⟨⟨stepped, c₁⟩, hstep, hrest⟩ := Run.result_bind_eq_ok.mp h
  obtain ⟨⟨polled, hpoll⟩, _⟩ := step_poll hstep
  refine ⟨polled, c₁.endpoint, hpoll, ?_⟩
  cases stepped with
  | error e =>
    cases hrest
    rfl
  | ok progress =>
    simp only at hrest
    split at hrest
    · cases hrest
      rfl
    · split at hrest <;> cases hrest <;> rfl

theorem settleCoopTurn_polls {cut : Nat → Bool} {s : Nat × Caller n δ η}
    {turn : Turn (Nat × Caller n δ η) (Except CallError Unit × Nat × Caller n δ η)}
    (h : (settleCoopTurn rounds cut s).result = .ok turn) :
    PollsOnce rounds Prod.snd (fun r e => r.2.2.endpoint = e) s turn := by
  obtain ⟨⟨stepped, c₁⟩, hstep, hrest⟩ := Run.result_bind_eq_ok.mp h
  obtain ⟨⟨polled, hpoll⟩, _⟩ := step_poll hstep
  refine ⟨polled, c₁.endpoint, hpoll, ?_⟩
  rcases stepped with error | progress
  · cases hrest
    rfl
  · cases progress with
    | true =>
      cases hrest
      rfl
    | false =>
      simp only at hrest
      split at hrest
      · cases hrest
        rfl
      · split at hrest <;> cases hrest <;> rfl

end Polling

variable [KeepsSlot η]

/-! ## Ends of a wait -/

/-- The endpoint with another slot. -/
def withSlot (e : Endpoint n δ η) (slot : ResponseSlot) : Endpoint n δ η :=
  { e with handler := KeepsSlot.setSlot e.handler slot }

/-- The endpoint with its slot emptied. -/
def emptied (e : Endpoint n δ η) : Endpoint n δ η :=
  withSlot e (KeepsSlot.slot e.handler).take.2

/-- The endpoint after it stopped to wait for a response. -/
def released (e : Endpoint n δ η) : Endpoint n δ η :=
  withSlot e (KeepsSlot.slot e.handler).reset

/-- The second endpoint is the first one, and may have stopped to wait for a response. -/
inductive Quits (e : Endpoint n δ η) : Endpoint n δ η → Prop where
  | kept : Quits e e
  | reset : Quits e (released e)

theorem withSlot_slot (e : Endpoint n δ η) : withSlot e (KeepsSlot.slot e.handler) = e := by
  rw [withSlot, KeepsSlot.setSlot_slot]

theorem Quits.endpoint {e e' : Endpoint n δ η} (h : Quits e e') : ∃ slot, e' = withSlot e slot := by
  cases h with
  | kept => exact ⟨_, (withSlot_slot e).symm⟩
  | reset => exact ⟨_, rfl⟩

theorem Quits.slot {e e' : Endpoint n δ η} (h : Quits e e') :
    KeepsSlot.slot e'.handler = KeepsSlot.slot e.handler ∨
      KeepsSlot.slot e'.handler = (KeepsSlot.slot e.handler).reset := by
  cases h with
  | kept => exact .inl rfl
  | reset => exact .inr (KeepsSlot.slot_setSlot _ _)

/-- A wait ended after the poll that left the first endpoint: with the response taken out of the slot, or
with no response and none waited for any more. -/
inductive Ends (e : Endpoint n δ η) : Except CallError Message → Endpoint n δ η → Prop where
  | answered {m : Message} : (KeepsSlot.slot e.handler).response = some m → Ends e (.ok m) (emptied e)
  | failed {error : CallError} : Ends e (.error error) (released e)

theorem Ends.endpoint {e e' : Endpoint n δ η} {result : Except CallError Message} (h : Ends e result e') :
    ∃ slot, e' = withSlot e slot := by
  cases h with
  | answered | failed => exact ⟨_, rfl⟩

theorem Ends.response {e e' : Endpoint n δ η} {m : Message} (h : Ends e (.ok m) e') :
    (KeepsSlot.slot e.handler).response = some m ∧ e' = emptied e := by
  cases h with
  | answered hresponse => exact ⟨hresponse, rfl⟩

/-- What the end of a wait leaves in the slot. -/
theorem Ends.slot {e e' : Endpoint n δ η} {result : Except CallError Message} (h : Ends e result e') :
    (∃ m, result = .ok m ∧ (KeepsSlot.slot e.handler).response = some m ∧
        KeepsSlot.slot e'.handler = (KeepsSlot.slot e.handler).take.2) ∨
      ∃ error, result = .error error ∧ KeepsSlot.slot e'.handler = (KeepsSlot.slot e.handler).reset := by
  cases h with
  | answered hresponse => exact .inl ⟨_, rfl, hresponse, KeepsSlot.slot_setSlot _ _⟩
  | failed => exact .inr ⟨_, rfl, KeepsSlot.slot_setSlot _ _⟩

theorem setSlot_slot (c : Caller n δ η) : c.setSlot c.slot = c := by
  rw [Caller.setSlot, slot, KeepsSlot.setSlot_slot]

/-- To expect a response and to stop to wait for it is to stop to wait. -/
theorem reset_expect (c : Caller n δ η) (component operation : UInt8) (link : Link n δ) :
    ((c.setSlot (c.slot.expect component operation)).setLink link).reset.endpoint =
      { c.endpoint with handler := KeepsSlot.setSlot c.endpoint.handler c.slot.reset, link := link } := by
  simp only [reset, setSlot, setLink, slot, KeepsSlot.slot_setSlot, KeepsSlot.setSlot_setSlot]
  rfl

/-- What a cooperative call leaves: it stops to wait if it failed. -/
def conclude (c : Caller n δ η) : Except CallError Message → Caller n δ η
  | .ok _ => c
  | .error _ => c.reset

/-- A look into the slot after a poll: the response is taken out of it, or it stays as it is. -/
theorem look (c : Caller n δ η) :
    (∃ m, c.slot.take.1 = some m ∧ Ends c.endpoint (.ok m) (c.setSlot c.slot.take.2).endpoint) ∨
      (c.slot.take.1 = none ∧ c.setSlot c.slot.take.2 = c) := by
  cases hslot : c.slot.response with
  | some m => exact .inl ⟨m, hslot, .answered hslot⟩
  | none =>
    refine .inr ⟨hslot, ?_⟩
    rw [ResponseSlot.take_none hslot, setSlot_slot]

variable {φ : Type} [Medium δ φ] {c c' : Caller n δ η} {rounds : Nat}

/-! ## Beginning -/

/-- A call, by a request or by a message as it is. -/
inductive Ask where
  | request (channel : UInt8) (r : Request)
  | raw (m : Message)

/-- The message that a call sends. -/
def Ask.message : Ask → Message
  | request channel r => r.message channel
  | raw m => m

/-- Begin a call. -/
def Ask.start (c : Caller n δ η) : Ask → Run (Except CallError Unit × Caller n δ η)
  | request channel r => c.begin channel r
  | raw m => c.beginRaw m

/-- The second caller is the first one after it began to send a message and to wait for its response. -/
structure Begins (c c' : Caller n δ η) (m : Message) : Prop where
  endpoint : c'.endpoint = { c.endpoint with
    handler := KeepsSlot.setSlot c.endpoint.handler (c.slot.expect m.component (responseTo m.operation))
    link := c'.endpoint.link }
  carries : c.endpoint.link.Carries c'.endpoint.link m

/-- The second caller is the first one after a message was refused: it waits for nothing. -/
structure Refuses (c c' : Caller n δ η) : Prop where
  endpoint : c'.endpoint = { c.endpoint with
    handler := KeepsSlot.setSlot c.endpoint.handler c.slot.reset
    link := c'.endpoint.link }
  declines : c.endpoint.link.Declines c'.endpoint.link

/-- A message is begun, or refused. -/
theorem Ask.start_cases {ask : Ask} {result : Except CallError Unit} (hn : Header.size < n)
    (h : (ask.start c).result = .ok (result, c')) :
    (result = .ok () ∧ c.Begins c' ask.message) ∨ (result = .error .capacity ∧ c.Refuses c') := by
  cases ask with
  | request channel r =>
    obtain ⟨⟨sent, link⟩, hsend, hrest⟩ := Run.result_bind_eq_ok.mp h
    obtain ⟨rfl, _⟩ | ⟨⟨error, rfl⟩, hdeclines⟩ := Link.sendRequest_cases hn hsend
    · cases hrest
      exact .inl ⟨rfl, rfl, Link.sendRequest_ok hn hsend⟩
    · cases hrest
      exact .inr ⟨rfl, reset_expect c _ _ link, hdeclines⟩
  | raw m =>
    obtain ⟨⟨sent, link⟩, hsend, hrest⟩ := Run.result_bind_eq_ok.mp h
    obtain ⟨rfl, _⟩ | ⟨⟨error, rfl⟩, hdeclines⟩ := Link.sendMessage_cases hn hsend
    · cases hrest
      exact .inl ⟨rfl, rfl, Link.sendMessage_ok hn hsend⟩
    · cases hrest
      exact .inr ⟨rfl, reset_expect c _ _ link, hdeclines⟩

/-- A frame that was accepted is that of the message. -/
theorem Ask.start_ok {ask : Ask} (hn : Header.size < n) (h : (ask.start c).result = .ok (.ok (), c')) :
    c.Begins c' ask.message := by
  obtain ⟨_, hbegins⟩ | ⟨hrefused, _⟩ := start_cases hn h
  · exact hbegins
  · cases hrefused

/-- Beginning touches the slot and the link only, and tells the medium at most to send. -/
theorem Ask.start_emits {ask : Ask} {result : Except CallError Unit} (h : (ask.start c).result = .ok (result, c')) :
    (∃ slot, c'.endpoint = { c.endpoint with
      handler := KeepsSlot.setSlot c.endpoint.handler slot
      link := c'.endpoint.link }) ∧
      Medium.Emits c.endpoint.link.medium c'.endpoint.link.medium := by
  cases ask with
  | request channel r =>
    obtain ⟨⟨sent, link⟩, hsend, hrest⟩ := Run.result_bind_eq_ok.mp h
    have hemits := Link.sendRequest_emits hsend
    cases sent with
    | ok _ =>
      cases hrest
      exact ⟨⟨_, rfl⟩, hemits⟩
    | error e =>
      cases hrest
      exact ⟨⟨_, reset_expect c _ _ link⟩, hemits⟩
  | raw m =>
    obtain ⟨⟨sent, link⟩, hsend, hrest⟩ := Run.result_bind_eq_ok.mp h
    have hemits := Link.sendMessage_emits hsend
    cases sent with
    | ok _ =>
      cases hrest
      exact ⟨⟨_, rfl⟩, hemits⟩
    | error e =>
      cases hrest
      exact ⟨⟨_, reset_expect c _ _ link⟩, hemits⟩

variable [CallFailure φ] [Handler η]

/-! ## Settling -/

/-- Settling polls, with nothing expected. -/
theorem settle_polls {late : Nat → Bool} {result : Except CallError Nat}
    (h : (c.settle rounds late).result = .ok (result, c')) : Polls rounds c.reset.endpoint c'.endpoint := by
  obtain ⟨e, hpolls, rfl⟩ := loop_polls (fun _ _ => settleTurn_polls) h
  exact hpolls

theorem settleCoop_polls {cut : Nat → Bool} {r : Except CallError Unit × Nat × Caller n δ η}
    (h : (Run.loop (settleCoopTurn rounds cut) rounds (0, c.reset)).result = .ok r) :
    Polls rounds c.reset.endpoint r.2.2.endpoint := by
  obtain ⟨e, hpolls, rfl⟩ := loop_polls (fun _ _ => settleCoopTurn_polls) h
  exact hpolls

/-- Settling that goes well leaves the link idle. -/
theorem settle_idle {late : Nat → Bool} {looks : Nat} (h : (c.settle rounds late).result = .ok (.ok looks, c')) :
    c'.endpoint.link.sending = none := by
  refine Run.loop_last (fun r => ∀ looks, r.1 = .ok looks → r.2.endpoint.link.sending = none) ?_ h looks rfl
  intro s r hturn
  obtain ⟨⟨error | progress, c₁⟩, _, hrest⟩ := Run.result_bind_eq_ok.mp hturn
  · cases hrest
    exact fun _ hok => nomatch hok
  · simp only at hrest
    split at hrest
    next hdone =>
      cases hrest
      exact fun _ _ => Endpoint.sending_eq_none (Bool.and_eq_true_iff.mp hdone).2
    next =>
      split at hrest <;> cases hrest
      exact fun _ hok => nomatch hok

omit [KeepsSlot η] in
theorem settleCoop_idle {cut : Nat → Bool} {pauses pauses' : Nat}
    (h : (Run.loop (settleCoopTurn rounds cut) rounds (pauses, c)).result = .ok (.ok (), pauses', c')) :
    c'.endpoint.link.sending = none := by
  refine Run.loop_last (fun r => r.1 = .ok () → r.2.2.endpoint.link.sending = none) ?_ h rfl
  intro s r hturn
  obtain ⟨⟨error | (_ | _), c₁⟩, _, hrest⟩ := Run.result_bind_eq_ok.mp hturn
  · cases hrest
    exact fun hok => nomatch hok
  · simp only at hrest
    split at hrest
    next hdone =>
      cases hrest
      exact fun _ => Endpoint.sending_eq_none hdone
    next =>
      split at hrest <;> cases hrest
      exact fun hok => nomatch hok
  · cases hrest

/-! ## Waiting -/

theorem awaitTurn_polls {late : Nat → Bool} {s : Nat × Caller n δ η}
    {turn : Turn (Nat × Caller n δ η) (Except CallError Message × Caller n δ η)}
    (h : (awaitTurn rounds late s).result = .ok turn) :
    PollsOnce rounds Prod.snd (fun r e => Ends e r.1 r.2.endpoint) s turn := by
  obtain ⟨⟨stepped, c₁⟩, hstep, hrest⟩ := Run.result_bind_eq_ok.mp h
  obtain ⟨⟨polled, hpoll⟩, _⟩ := step_poll hstep
  refine ⟨polled, c₁.endpoint, hpoll, ?_⟩
  cases stepped with
  | error e =>
    cases hrest
    exact .failed
  | ok progress =>
    simp only at hrest
    obtain ⟨m, hsome, hanswered⟩ | ⟨hnone, hkept⟩ := look c₁
    · simp only [hsome] at hrest
      cases hrest
      exact hanswered
    · simp only [hnone, hkept] at hrest
      split at hrest
      · cases hrest
        exact .failed
      · cases hrest
        rfl

theorem awaitCoopTurn_polls {cut : Nat → Bool} {s : Nat × Caller n δ η}
    {turn : Turn (Nat × Caller n δ η) (Except CallError Message × Nat × Caller n δ η)}
    (h : (awaitCoopTurn rounds cut s).result = .ok turn) :
    PollsOnce rounds Prod.snd (fun r e => Ends e r.1 (r.2.2.conclude r.1).endpoint) s turn := by
  obtain ⟨⟨stepped, c₁⟩, hstep, hrest⟩ := Run.result_bind_eq_ok.mp h
  obtain ⟨⟨polled, hpoll⟩, _⟩ := step_poll hstep
  refine ⟨polled, c₁.endpoint, hpoll, ?_⟩
  cases stepped with
  | error e =>
    cases hrest
    exact .failed
  | ok progress =>
    simp only at hrest
    obtain ⟨m, hsome, hanswered⟩ | ⟨hnone, hkept⟩ := look c₁
    · simp only [hsome] at hrest
      cases hrest
      exact hanswered
    · simp only [hnone, hkept] at hrest
      split at hrest
      · cases hrest
        rfl
      · split at hrest
        · cases hrest
          exact .failed
        · cases hrest
          rfl

/-- Waiting polls, until it ends. -/
theorem await_polls {late : Nat → Bool} {looks : Nat} {result : Except CallError Message}
    (h : (c.await rounds late looks).result = .ok (result, c')) :
    ∃ e, Polls rounds c.endpoint e ∧ Ends e result c'.endpoint :=
  loop_polls (fun _ _ => awaitTurn_polls) h

theorem awaitCoop_polls {cut : Nat → Bool} {pauses : Nat} {r : Except CallError Message × Nat × Caller n δ η}
    (h : (Run.loop (awaitCoopTurn rounds cut) rounds (pauses, c)).result = .ok r) :
    ∃ e, Polls rounds c.endpoint e ∧ Ends e r.1 (r.2.2.conclude r.1).endpoint :=
  loop_polls (fun _ _ => awaitCoopTurn_polls) h

/-! ## Calls of every kind -/

/-- Make a call. -/
def Ask.run (rounds : Nat) (clock : Clock) (c : Caller n δ η) :
    Ask → Run (Except CallError Message × Caller n δ η)
  | request channel r => c.call rounds clock channel r
  | raw m => c.callRaw rounds clock m

/-- A call is an exchange up to its deadline. -/
theorem Ask.run_eq (rounds : Nat) (clock : Clock) (c : Caller n δ η) (ask : Ask) : ask.run rounds clock c =
    clock.within c.settings.timeout fun late => c.exchange rounds late ask.start := by
  cases ask <;> rfl

/-- A demand on a caller: a blocking call, or a cooperative one. -/
inductive Demand where
  | blocking (clock : Clock) (ask : Ask)
  | cooperative (cut : Nat → Bool) (channel : UInt8) (r : Request)

namespace Demand

def ask : Demand → Ask
  | blocking _ ask => ask
  | cooperative _ channel r => .request channel r

/-- The deadline of a call can be told, if it has one. -/
def Tells (timeout : Duration) : Demand → Prop
  | blocking clock _ => clock.Tells timeout
  | cooperative _ _ _ => True

/-- Meet a demand. -/
def run (rounds : Nat) (c : Caller n δ η) : Demand → Run (Except CallError Message × Caller n δ η)
  | blocking clock ask => ask.run rounds clock c
  | cooperative cut channel r => do
    let (result, _, c) ← c.callCoop rounds cut channel r
    pure (result, c)

/-- The settling of a call: the number of looks or pauses that it took. -/
def settle (rounds : Nat) (c : Caller n δ η) : Demand → Run (Except CallError Nat × Caller n δ η)
  | blocking clock _ => c.settle rounds (clock.late c.settings.timeout)
  | cooperative cut _ _ => do
    let (result, pauses, c) ← Run.loop (settleCoopTurn rounds cut) rounds (0, c.reset)
    pure (result.map fun _ => pauses, c)

/-- A call up to the moment at which its frame was started. -/
def begin (rounds : Nat) (c : Caller n δ η) (d : Demand) : Run (Except CallError Nat × Caller n δ η) := do
  match ← d.settle rounds c with
  | (.error e, c) => pure (.error e, c)
  | (.ok count, c) =>
    match ← d.ask.start c with
    | (.error e, c) => pure (.error e, c)
    | (.ok _, c) => pure (.ok count, c)

theorem settle_polls {d : Demand} {result : Except CallError Nat} (h : (d.settle rounds c).result = .ok (result, c')) :
    Polls rounds c.reset.endpoint c'.endpoint := by
  cases d with
  | blocking clock ask => exact Caller.settle_polls h
  | cooperative cut channel r =>
    obtain ⟨⟨settled, pauses, c₁⟩, hsettle, hrest⟩ := Run.result_bind_eq_ok.mp h
    have hpolls := settleCoop_polls hsettle
    cases hrest
    exact hpolls

/-- A call that began has settled, and then started its frame. -/
theorem begin_ok {d : Demand} {count : Nat} (h : (d.begin rounds c).result = .ok (.ok count, c')) :
    ∃ settled, (d.settle rounds c).result = .ok (.ok count, settled) ∧
      (d.ask.start settled).result = .ok (.ok (), c') := by
  obtain ⟨⟨settling, settled⟩, hsettle, hrest⟩ := Run.result_bind_eq_ok.mp h
  cases settling with
  | error e => cases hrest
  | ok looks =>
    obtain ⟨⟨started, begun⟩, hstart, hlast⟩ := Run.result_bind_eq_ok.mp hrest
    cases started with
    | error e => cases hlast
    | ok _ =>
      cases hlast
      exact ⟨settled, hsettle, hstart⟩

/-- A call that did not begin has not settled, or its frame was refused. -/
theorem begin_error {d : Demand} {error : CallError} (h : (d.begin rounds c).result = .ok (.error error, c')) :
    (d.settle rounds c).result = .ok (.error error, c') ∨
      ∃ count settled, (d.settle rounds c).result = .ok (.ok count, settled) ∧
        (d.ask.start settled).result = .ok (.error error, c') := by
  obtain ⟨⟨settling, settled⟩, hsettle, hrest⟩ := Run.result_bind_eq_ok.mp h
  cases settling with
  | error e =>
    cases hrest
    exact .inl hsettle
  | ok looks =>
    obtain ⟨⟨started, begun⟩, hstart, hlast⟩ := Run.result_bind_eq_ok.mp hrest
    cases started with
    | error e =>
      cases hlast
      exact .inr ⟨looks, settled, hsettle, hstart⟩
    | ok _ => cases hlast

theorem begin_unsettled {d : Demand} {settled : Caller n δ η} {error : CallError}
    (h : (d.settle rounds c).result = .ok (.error error, settled)) :
    (d.begin rounds c).result = .ok (.error error, settled) :=
  Run.result_bind_eq_ok.mpr ⟨_, h, rfl⟩

theorem begin_settled {d : Demand} {settled begun : Caller n δ η} {count : Nat} {started : Except CallError Unit}
    (h : (d.settle rounds c).result = .ok (.ok count, settled))
    (hstart : (d.ask.start settled).result = .ok (started, begun)) :
    (d.begin rounds c).result = .ok (started.map fun _ => count, begun) :=
  Run.result_bind_eq_ok.mpr ⟨_, h, Run.result_bind_eq_ok.mpr ⟨_, hstart, by cases started <;> rfl⟩⟩

/-- What came of a call: it failed before its frame was started, or it was begun and ended after some
polls. -/
inductive Met (rounds : Nat) (c : Caller n δ η) (d : Demand) (result : Except CallError Message) (c' : Caller n δ η) :
    Prop where
  | failed {error : CallError} {c₁ : Caller n δ η} : (d.begin rounds c).result = .ok (.error error, c₁) →
      result = .error error → Quits c₁.endpoint c'.endpoint → Met rounds c d result c'
  | ended {count : Nat} {begun : Caller n δ η} {e : Endpoint n δ η} :
      (d.begin rounds c).result = .ok (.ok count, begun) → Polls rounds begun.endpoint e → Ends e result c'.endpoint →
      Met rounds c d result c'

theorem exchange_met {clock : Clock} {ask : Ask} {result : Except CallError Message}
    (h : (c.exchange rounds (clock.late c.settings.timeout) ask.start).result = .ok (result, c')) :
    Met rounds c (blocking clock ask) result c' := by
  obtain ⟨⟨settling, settled⟩, hsettle, hrest⟩ := Run.result_bind_eq_ok.mp h
  have hdemand : ((blocking clock ask).settle rounds c).result = .ok (settling, settled) := hsettle
  cases settling with
  | error e =>
    cases hrest
    exact .failed (begin_unsettled hdemand) rfl .kept
  | ok looks =>
    obtain ⟨⟨started, begun⟩, hstart, hlast⟩ := Run.result_bind_eq_ok.mp hrest
    have hbegin := begin_settled hdemand hstart
    cases started with
    | error e =>
      cases hlast
      exact .failed hbegin rfl .kept
    | ok _ =>
      obtain ⟨e, hpolls, hends⟩ := await_polls hlast
      exact .ended hbegin hpolls hends

theorem exchangeCoop_met {cut : Nat → Bool} {channel : UInt8} {r : Request} {result : Except CallError Message}
    {pauses : Nat} (h : (c.exchangeCoop rounds cut channel r).result = .ok (result, pauses, c')) :
    Met rounds c (cooperative cut channel r) result (c'.conclude result) := by
  obtain ⟨⟨settling, paused, settled⟩, hsettle, hrest⟩ := Run.result_bind_eq_ok.mp h
  have hdemand : ((cooperative cut channel r).settle rounds c).result = .ok (settling.map fun _ => paused, settled) :=
    Run.result_bind_eq_ok.mpr ⟨_, hsettle, rfl⟩
  cases settling with
  | error e =>
    cases hrest
    exact .failed (begin_unsettled hdemand) rfl .reset
  | ok _ =>
    obtain ⟨⟨started, begun⟩, hstart, hlast⟩ := Run.result_bind_eq_ok.mp hrest
    have hbegin := begin_settled hdemand hstart
    cases started with
    | error e =>
      cases hlast
      exact .failed hbegin rfl .reset
    | ok _ =>
      obtain ⟨e, hpolls, hends⟩ := awaitCoop_polls hlast
      exact .ended hbegin hpolls hends

/-- Every call comes to one of these. -/
theorem run_met {d : Demand} {result : Except CallError Message} (h : (d.run rounds c).result = .ok (result, c')) :
    Met rounds c d result c' := by
  cases d with
  | blocking clock ask =>
    rw [run, Ask.run_eq] at h
    exact exchange_met (Clock.within_ok h).2
  | cooperative cut channel r =>
    obtain ⟨⟨response, pauses, c₁⟩, hcall, hsame⟩ := Run.result_bind_eq_ok.mp h
    cases hsame
    obtain ⟨⟨response, pauses, c₂⟩, hexchange, hrest⟩ := Run.result_bind_eq_ok.mp hcall
    have hmet := exchangeCoop_met hexchange
    cases response <;> cases hrest <;> exact hmet

/-- A call that comes to something has told its deadline. -/
theorem run_tells {d : Demand} {p : Except CallError Message × Caller n δ η} (h : (d.run rounds c).result = .ok p) :
    d.Tells c.settings.timeout := by
  cases d with
  | blocking clock ask =>
    rw [run, Ask.run_eq] at h
    exact (Clock.within_ok h).1
  | cooperative cut channel r => trivial

/-- A call whose deadline cannot be told stops before it does anything. -/
theorem run_untold {d : Demand} (h : ¬d.Tells c.settings.timeout) : d.run rounds c = Run.stop .noDeadline := by
  cases d with
  | blocking clock ask => rw [run, Ask.run_eq, Clock.within_untold h]
  | cooperative cut channel r => exact absurd trivial h

end Demand

/-! ## Calls return -/

section Returning

variable (hreturns : HandlerReturns η) (hn : Header.size < n)
include hreturns hn

omit [KeepsSlot η] in
theorem step_returns (c : Caller n δ η) : (c.step rounds).Returns := by
  refine Run.Returns.bind (Endpoint.poll_returns hreturns hn rounds c.endpoint) ?_
  rintro ⟨polled, e⟩ _
  rcases polled with (kind | oversized) | progress <;> exact .inl ⟨_, rfl⟩

theorem settle_returns {late : Nat → Bool} (c : Caller n δ η) : (c.settle rounds late).Returns := by
  refine Run.loop_returns ?_ rounds (0, c.reset)
  intro s
  refine (step_returns hreturns hn s.2).bind ?_
  rintro ⟨error | progress, c₁⟩ _
  · exact .inl ⟨_, rfl⟩
  · simp only
    split
    · exact .inl ⟨_, rfl⟩
    · split <;> exact .inl ⟨_, rfl⟩

omit [KeepsSlot η] in
theorem settleCoop_returns {cut : Nat → Bool} (s : Nat × Caller n δ η) :
    (Run.loop (settleCoopTurn rounds cut) rounds s).Returns := by
  refine Run.loop_returns ?_ rounds s
  intro s
  refine (step_returns hreturns hn s.2).bind ?_
  rintro ⟨error | (_ | _), c₁⟩ _
  · exact .inl ⟨_, rfl⟩
  · simp only
    split
    · exact .inl ⟨_, rfl⟩
    · split <;> exact .inl ⟨_, rfl⟩
  · exact .inl ⟨_, rfl⟩

theorem await_returns {late : Nat → Bool} {looks : Nat} (c : Caller n δ η) : (c.await rounds late looks).Returns := by
  refine Run.loop_returns ?_ rounds (looks, c)
  intro s
  refine (step_returns hreturns hn s.2).bind ?_
  rintro ⟨error | progress, c₁⟩ _
  · exact .inl ⟨_, rfl⟩
  · simp only
    cases c₁.slot.take.1 with
    | some m => exact .inl ⟨_, rfl⟩
    | none =>
      simp only
      split <;> exact .inl ⟨_, rfl⟩

theorem awaitCoop_returns {cut : Nat → Bool} (s : Nat × Caller n δ η) :
    (Run.loop (awaitCoopTurn rounds cut) rounds s).Returns := by
  refine Run.loop_returns ?_ rounds s
  intro s
  refine (step_returns hreturns hn s.2).bind ?_
  rintro ⟨error | progress, c₁⟩ _
  · exact .inl ⟨_, rfl⟩
  · simp only
    cases c₁.slot.take.1 with
    | some m => exact .inl ⟨_, rfl⟩
    | none =>
      simp only
      split
      · exact .inl ⟨_, rfl⟩
      · split <;> exact .inl ⟨_, rfl⟩

omit [CallFailure φ] [Handler η] hreturns in
/-- On an idle link a call can begin. -/
theorem Ask.start_returns (ask : Ask) (hidle : c.endpoint.link.sending = none) : (ask.start c).Returns := by
  cases ask with
  | request channel r =>
    refine Run.Returns.bind (.inl (Link.sendRequest_returns hn hidle channel r)) ?_
    rintro ⟨sent, link⟩ _
    cases sent <;> exact .inl ⟨_, rfl⟩
  | raw m =>
    obtain ⟨link, hsend, _⟩ := Link.sendMessage_idle hn hidle m
    refine Run.Returns.bind (.inl ⟨_, hsend⟩) ?_
    rintro ⟨sent, link⟩ _
    cases sent <;> exact .inl ⟨_, rfl⟩

theorem exchange_returns {late : Nat → Bool} (c : Caller n δ η) (ask : Ask) :
    (c.exchange rounds late ask.start).Returns := by
  refine (settle_returns hreturns hn c).bind ?_
  rintro ⟨error | looks, settled⟩ hsettle
  · exact .inl ⟨_, rfl⟩
  · refine (ask.start_returns hn (settle_idle hsettle)).bind ?_
    rintro ⟨error | _, begun⟩ _
    · exact .inl ⟨_, rfl⟩
    · exact await_returns hreturns hn begun

theorem exchangeCoop_returns {cut : Nat → Bool} {channel : UInt8} {r : Request} (c : Caller n δ η) :
    (c.exchangeCoop rounds cut channel r).Returns := by
  refine (settleCoop_returns hreturns hn (0, c.reset)).bind ?_
  rintro ⟨error | _, pauses, settled⟩ hsettle
  · exact .inl ⟨_, rfl⟩
  · have hbegin : (settled.begin channel r).Returns :=
      (Ask.request channel r).start_returns hn (settleCoop_idle hsettle)
    refine hbegin.bind ?_
    rintro ⟨error | _, begun⟩ _
    · exact .inl ⟨_, rfl⟩
    · exact awaitCoop_returns hreturns hn (pauses, begun)

/-- A call whose deadline can be told breaks no rule of use: it starts its frame on a link that settling has left
idle. -/
theorem Demand.run_returns (c : Caller n δ η) {d : Demand} (htells : d.Tells c.settings.timeout) :
    (d.run rounds c).Returns := by
  cases d with
  | blocking clock ask =>
    rw [run, Ask.run_eq, Clock.within_tells htells]
    exact exchange_returns hreturns hn c ask
  | cooperative cut channel r =>
    have hcall : (c.callCoop rounds cut channel r).Returns := by
      refine (exchangeCoop_returns hreturns hn c).bind ?_
      rintro ⟨error | m, pauses, c₁⟩ _ <;> exact .inl ⟨_, rfl⟩
    exact hcall.bind fun _ _ => .inl ⟨_, rfl⟩

end Returning

end Caller

end BusBridge

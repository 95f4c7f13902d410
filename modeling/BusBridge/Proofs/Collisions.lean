import BusBridge.Caller.Inquiry
import BusBridge.Proofs.Dialogues
import BusBridge.Proofs.Dispatch
import BusBridge.Proofs.Lifetime
import BusBridge.Service.Serving
/-!
# Who can start a frame on a busy link

A frame that is started while another one is on the link stops the work with `Fault.busy`. Callers, timed callers,
routers, dialogues and the serving of a bus all start frames, and each of them makes sure in a way of its own that the
link is idle then: by settling, by writing out what was left, by looking, by waiting for the report. The owner of an
endpoint may start frames in between, so a run can be stopped; but then it is the owner who did it (`Intrusion`).

A call can end in the middle of a frame, by a timeout or because the bus fails. The frame stays on the link, and every
statement here is about a start from any state, so it covers what comes after.
-/

namespace BusBridge

variable {n : Nat} {δ η : Type}

/-! ## Frames of the owner -/

namespace Link

variable {α : Type} {l : Link n δ}

theorem requireIdle_busy (h : l.isBusy = true) (next : Unit → Run α) :
    (l.requireIdle >>= next).result = .error .busy := by
  rw [requireIdle, if_pos h]
  rfl

variable {φ : Type} [Medium δ φ]

theorem send_ne_busy (hidle : l.sending = none) (frame : Bytes) : (l.send frame).result ≠ .error .busy := by
  rw [send, Run.result_bind, requireIdle_idle hidle, Outcomes.ok_bind]
  by_cases hshort : frame.length < Header.size
  · simp only [if_pos hshort]
    refine Run.bind_ne_error (by simp) ?_
    intro _ hstop
    cases hstop
  · simp only [if_neg hshort]
    split
    · simp
    · intro hstart
      cases hstart

theorem commit_ne_busy (hidle : l.sending = none) (component operation channel : UInt8) (length : Nat) :
    (l.commit component operation channel length).result ≠ .error .busy := by
  rw [commit, Run.result_bind, requireIdle_idle hidle, Outcomes.ok_bind]
  split
  · simp
  · intro hstart
    cases hstart

end Link

namespace Start

variable {φ : Type} [Medium δ φ] {l : Link n δ}

theorem run_busy (hbusy : l.isBusy = true) (s : Start) : (s.run l).result = .error .busy := by
  cases s with
  | bytes frame => rw [run, Run.result_bind, Link.send, Link.requireIdle_busy hbusy]; rfl
  | message m => rw [run, Run.result_bind, Link.sendMessage, Link.requireIdle_busy hbusy]; rfl
  | request channel r => rw [run, Run.result_bind, Link.sendRequest, Link.requireIdle_busy hbusy]; rfl
  | commit component operation channel length =>
    rw [run, Run.result_bind, Link.commit, Link.requireIdle_busy hbusy]; rfl

theorem run_ne_busy (hn : Header.size < n) (hidle : l.sending = none) (s : Start) :
    (s.run l).result ≠ .error .busy := by
  have hpure : ∀ {ε : Type} (r : Except ε Unit × Link n δ), (pure (r.1.isOk, r.2) : Run (Bool × Link n δ)).result ≠
      .error .busy :=
    fun _ => nofun
  cases s with
  | bytes frame => exact Run.bind_ne_error (Link.send_ne_busy hidle frame) fun r _ => hpure r
  | message m =>
    obtain ⟨l', hsend, _⟩ := Link.sendMessage_idle hn hidle m
    exact Run.bind_ne_error (by rw [hsend]; exact nofun) fun r _ => hpure r
  | request channel r =>
    obtain ⟨sent, hsend⟩ := Link.sendRequest_returns hn hidle channel r
    exact Run.bind_ne_error (by rw [hsend]; exact nofun) fun r _ => hpure r
  | commit component operation channel length =>
    exact Run.bind_ne_error (Link.commit_ne_busy hidle component operation channel length) fun r _ => hpure r

end Start

namespace Use

/-- Whether the owner starts a frame, or lays hands on its payload. -/
def starts : Use → Bool
  | drive _ => false
  | start _ | write _ => true

variable {φ : Type} [Medium δ φ] [Handler η]

/-- What an owner does is stopped by a busy link exactly if it is to start a frame on one. -/
theorem run_eq_busy (hreturns : HandlerReturns η) (hn : Header.size < n) (e : Endpoint n δ η) (use : Use) :
    (use.run e).result = .error .busy ↔ use.starts = true ∧ e.isSending = true := by
  cases use with
  | drive d =>
    have hclear : (d.run e).result ≠ .error .busy :=
      Run.Returns.ne_error (Drive.run_returns hreturns hn e d) (by decide)
    exact ⟨fun h => absurd h hclear, fun h => nomatch h.1⟩
  | start s =>
    refine ⟨fun h => ⟨rfl, ?_⟩, fun h => ?_⟩
    · by_contra hquiet
      have hidle : e.link.sending = none := Option.not_isSome_iff_eq_none.mp hquiet
      exact absurd h (Run.bind_ne_error (s.run_ne_busy hn hidle) fun _ _ => nofun)
    · rw [run, Run.result_bind, s.run_busy h.2]
      rfl
  | write data =>
    refine ⟨fun h => ⟨rfl, ?_⟩, fun h => Link.requireIdle_busy h.2 _⟩
    by_contra hquiet
    have hidle : e.link.sending = none := Option.not_isSome_iff_eq_none.mp hquiet
    rw [run, Run.result_bind, Link.requireIdle_idle hidle] at h
    cases h

end Use

/-! ## Intrusions -/

/-- One of the acts is to start a frame of the owner's, and it meets a frame that is still on the link. -/
def Intrusion {σ α : Type} (step : σ → α → Run σ) (starts : α → Bool) (sending : σ → Bool) (s : σ) (acts : List α) :
    Prop :=
  ∃ before act after s', acts = before ++ act :: after ∧ (before.foldlM step s).result = .ok s' ∧
    starts act = true ∧ sending s' = true

theorem foldlM_eq_busy {σ α : Type} {step : σ → α → Run σ} {starts : α → Bool} {sending : σ → Bool}
    (hstep : ∀ s act, (step s act).result = .error .busy ↔ starts act = true ∧ sending s = true) (s : σ)
    (acts : List α) :
    (acts.foldlM step s).result = .error .busy ↔ Intrusion step starts sending s acts := by
  simp only [Run.foldlM_eq_error, hstep, Intrusion]

/-! ## Callers -/

namespace Caller

/-- A typed inquiry. -/
inductive Inquiry where
  | protocolVersion
  | hardwareInfo
  | firmwareVersion
  | supportedComponents
  | delay (milliseconds : UInt32)
  | i2cConfig (channel : UInt8) (clock : ClockSpeed) (pullups : Bool)
  | i2cWrite (channel : UInt8) (address : UInt16) (data : Bytes)
  | i2cRead (channel : UInt8) (address : UInt16) (count : UInt8)
  | spiChannels
  | spiConfig (channel : UInt8) (config : Spi.Config)
  | spiRead (channel : UInt8) (count : UInt16)
  | spiWrite (channel : UInt8) (data : Bytes)
  | spiTransfer (channel : UInt8) (data : Bytes)

/-- Make an inquiry, whatever its answer. -/
def Inquiry.run (via : Via n δ) (c : Caller n δ) : Inquiry → Run (Caller n δ)
  | protocolVersion => Prod.snd <$> c.protocolVersion via
  | hardwareInfo => Prod.snd <$> c.hardwareInfo via
  | firmwareVersion => Prod.snd <$> c.firmwareVersion via
  | supportedComponents => Prod.snd <$> c.supportedComponents via
  | delay milliseconds => Prod.snd <$> c.delay via milliseconds
  | i2cConfig channel clock pullups => Prod.snd <$> c.i2cConfig via channel clock pullups
  | i2cWrite channel address data => Prod.snd <$> c.i2cWrite via channel address data
  | i2cRead channel address count => Prod.snd <$> c.i2cRead via channel address count
  | spiChannels => Prod.snd <$> c.spiChannels via
  | spiConfig channel config => Prod.snd <$> c.spiConfig via channel config
  | spiRead channel count => Prod.snd <$> c.spiRead via channel count
  | spiWrite channel data => Prod.snd <$> c.spiWrite via channel data
  | spiTransfer channel data => Prod.snd <$> c.spiTransfer via channel data

theorem inquire_ne_busy {α : Type} {via : Via n δ} (hvia : ∀ c channel r, (via c channel r).result ≠ .error .busy)
    (c : Caller n δ) (channel : UInt8) (r : Request) (read : Bytes → Except CallError α) :
    (Prod.snd <$> c.inquire via channel r read).result ≠ .error .busy :=
  Run.bind_ne_error (Run.bind_ne_error (hvia c channel r) fun _ _ => nofun) fun _ _ => nofun

/-- An inquiry is one call, so it is stopped as that is. -/
theorem Inquiry.run_ne_busy {via : Via n δ} (hvia : ∀ c channel r, (via c channel r).result ≠ .error .busy)
    (c : Caller n δ) (i : Inquiry) : (i.run via c).result ≠ .error .busy := by
  cases i <;> exact inquire_ne_busy hvia c _ _ _

/-- Something that is done with a caller. -/
inductive Act where
  | call (rounds : Nat) (d : Demand)
  | inquire (rounds : Nat) (clock : Clock) (i : Inquiry)
  | configure (settings : CallSettings)
  /-- use its endpoint, past the caller -/
  | use (u : Use)

variable {φ : Type} [Medium δ φ] [CallFailure φ]

/-- A call starts its frame on an idle link, or does nothing because its deadline cannot be told. -/
theorem Demand.run_ne_busy (hn : Header.size < n) (rounds : Nat) (c : Caller n δ) (d : Demand) :
    (d.run rounds c).result ≠ .error .busy := by
  by_cases htells : d.Tells c.settings.timeout
  · exact (d.run_returns ResponseSlot.returns hn c htells).ne_error (by decide)
  · rw [run_untold htells, Run.result_stop]
    intro h
    cases h

namespace Act

def run (c : Caller n δ) : Act → Run (Caller n δ)
  | call rounds d => Prod.snd <$> d.run rounds c
  | inquire rounds clock i => i.run (fun c => c.call rounds clock) c
  | configure settings => pure { c with settings }
  | use u => do
    let endpoint ← u.run c.endpoint
    pure { c with endpoint }

/-- Whether the act starts a frame that is not that of a call. -/
def starts : Act → Bool
  | use u => u.starts
  | _ => false

theorem run_eq_busy (hn : Header.size < n) (c : Caller n δ) (act : Act) :
    (act.run c).result = .error .busy ↔ act.starts = true ∧ c.endpoint.isSending = true := by
  have hclear : act.starts = false → (act.run c).result ≠ .error .busy → ((act.run c).result = .error .busy ↔
      act.starts = true ∧ c.endpoint.isSending = true) := by
    intro hstarts h
    simp only [hstarts, Bool.false_eq_true, false_and, iff_false]
    exact h
  cases act with
  | call rounds d => exact hclear rfl (Run.bind_ne_error (d.run_ne_busy hn rounds c) fun _ _ => nofun)
  | inquire rounds clock i =>
    refine hclear rfl (i.run_ne_busy (fun c channel r => ?_) c)
    exact (Demand.blocking clock (.request channel r)).run_ne_busy hn rounds c
  | configure settings => exact hclear rfl nofun
  | use u =>
    refine Iff.trans ?_ (u.run_eq_busy ResponseSlot.returns hn c.endpoint)
    refine ⟨fun h => ?_, fun h => ?_⟩
    · by_contra hclear
      exact absurd h (Run.bind_ne_error hclear fun _ _ => nofun)
    · rw [run, Run.result_bind, h]
      rfl

end Act

end Caller

/-! ## Timed callers -/

namespace Episode

variable {σ : Type} [TimedStream σ] [Handler η] [ListensOnly η] [KeepsSlot η]

def run (c : TimedCaller n σ η) : Episode σ → Run (TimedCaller n σ η)
  | call rounds channel r => Prod.snd <$> c.call rounds channel r
  | pause pass => pure { c with stream := pass c.stream }

theorem run_ne_busy (hn : Header.size < n) (c : TimedCaller n σ η) (episode : Episode σ) :
    (episode.run c).result ≠ .error .busy := by
  cases episode with
  | call rounds channel r =>
    exact Run.bind_ne_error ((c.call_returns hn channel r).ne_error (by decide)) fun _ _ => nofun
  | pause pass => exact nofun

end Episode

/-! ## Dialogues -/

namespace Dialogue.Move

variable {γ : Type} [Conversation γ] {φ : Type} [Medium δ φ]

def starts : Move → Bool
  | start => false
  | use u => u.starts

theorem run_eq_busy (hn : Header.size < n) (e : Endpoint n δ (Dialogue γ)) (move : Move) :
    (move.run e).result = .error .busy ↔ move.starts = true ∧ e.isSending = true := by
  cases move with
  | start =>
    obtain ⟨d', l', hadvance, _⟩ := advance_advances hn e.handler none e.link
    have hclear : (e.handler.start e.link).result ≠ .error .busy := by
      rw [show (e.handler.start e.link).result = .ok (d', l') from hadvance]
      exact nofun
    exact ⟨fun h => absurd h (Run.bind_ne_error hclear fun _ _ => nofun), fun h => nomatch h.1⟩
  | use u => exact u.run_eq_busy returns hn e

end Dialogue.Move

/-! ## Serving -/

namespace Serving

variable {σ : Type} [Stream σ] [Handler η]

theorem emission_ne_busy (hreturns : HandlerReturns η) (hn : Header.size < n) (bus : σ) (e : Endpoint n Detached η) :
    (emission bus e).result ≠ .error .busy := by
  unfold emission
  cases e.link.armed? with
  | none => exact nofun
  | some frame =>
    simp only
    rcases Stream.drain frame bus [] with ⟨halt, given, bus₁⟩
    refine Run.bind_ne_error nofun fun _ _ => ?_
    cases halt with
    | nothing | failed => exact nofun
    | complete =>
      refine Run.bind_ne_error nofun fun _ _ => Run.bind_ne_error nofun ?_
      rintro ⟨error | _, bus₂⟩ _
      · exact nofun
      · obtain ⟨e', hsent⟩ := Endpoint.blockSent_returns hreturns hn e
        refine Run.bind_ne_error ?_ fun _ _ => nofun
        rw [hsent]
        exact nofun

theorem reception_ne_busy (hreturns : HandlerReturns η) (hn : Header.size < n) (bus : σ) (e : Endpoint n Detached η) :
    (reception bus e).result ≠ .error .busy := by
  unfold reception
  rcases Stream.gather e.armedSize bus [] with ⟨halt, got, bus₁⟩
  cases halt with
  | nothing | failed => exact nofun
  | complete =>
    obtain ⟨received, hreceived⟩ := Endpoint.blockReceived_returns hreturns hn (e.store 0 got.reverse)
    refine Run.bind_ne_error (by rw [hreceived]; exact nofun) ?_
    rintro ⟨error | _, e₁⟩ _ <;> exact nofun

theorem serve_ne_busy (hreturns : HandlerReturns η) (hn : Header.size < n) (turns : Nat) (bus : σ)
    (e : Endpoint n Detached η) :
    (serve turns bus e).result ≠ .error .busy := by
  refine Run.loop_ne_error (by decide) (fun s => ?_) turns (bus, e)
  refine Run.bind_ne_error (emission_ne_busy hreturns hn s.1 s.2) ?_
  rintro ⟨error | _, bus₁, e₁⟩ _
  · exact nofun
  · refine Run.bind_ne_error (reception_ne_busy hreturns hn bus₁ e₁) ?_
    rintro ⟨error | _, bus₂, e₂⟩ _ <;> exact nofun

end Serving

/-! ## All of them -/

/-- A frame meets another one on the link only if the owner of the endpoint starts it there: neither a call of any kind,
nor a timed call, a router, a dialogue or the serving of a bus does. -/
theorem busy_iff_intrusion (hn : Header.size < n) :
    (∀ {δ φ : Type} [Medium δ φ] [CallFailure φ] (c : Caller n δ) (acts : List Caller.Act),
      (acts.foldlM Caller.Act.run c).result = .error .busy ↔
        Intrusion Caller.Act.run Caller.Act.starts (fun c => c.endpoint.isSending) c acts) ∧
    (∀ {σ : Type} [TimedStream σ] (c : TimedCaller n σ) (episodes : List (Episode σ)),
      (episodes.foldlM Episode.run c).result ≠ .error .busy) ∧
    (∀ {κ δ φ : Type} [Service κ] [Medium δ φ] (e : Endpoint n δ (Router κ)) (uses : List Use),
      (Use.runAll e uses).result = .error .busy ↔ Intrusion Use.run Use.starts Endpoint.isSending e uses) ∧
    (∀ {γ δ φ : Type} [Conversation γ] [Medium δ φ] (e : Endpoint n δ (Dialogue γ)) (moves : List Dialogue.Move),
      (Dialogue.Move.runAll e moves).result = .error .busy ↔
        Intrusion Dialogue.Move.run Dialogue.Move.starts Endpoint.isSending e moves) ∧
    (∀ {κ σ : Type} [Service κ] [Stream σ] (turns : Nat) (bus : σ) (e : Endpoint n Detached (Router κ)),
      (Serving.serve turns bus e).result ≠ .error .busy) ∧
    (∀ {γ σ : Type} [Conversation γ] [Stream σ] (turns : Nat) (bus : σ) (e : Endpoint n Detached (Dialogue γ)),
      (Serving.serve turns bus e).result ≠ .error .busy) := by
  refine ⟨?callers, ?timed, ?routers, ?dialogues, ?served, ?conversing⟩
  case callers =>
    intro δ φ _ _ c acts
    exact foldlM_eq_busy (Caller.Act.run_eq_busy hn) c acts
  case timed =>
    intro σ _ c episodes h
    obtain ⟨_, episode, _, c', _, _, hbusy⟩ := Run.foldlM_eq_error.mp h
    exact Episode.run_ne_busy hn c' episode hbusy
  case routers =>
    intro κ δ φ _ _ e uses
    exact foldlM_eq_busy (Use.run_eq_busy Router.returns hn) e uses
  case dialogues =>
    intro γ δ φ _ _ e moves
    exact foldlM_eq_busy (Dialogue.Move.run_eq_busy hn) e moves
  case served =>
    intro κ σ _ _ turns bus e
    exact Serving.serve_ne_busy Router.returns hn turns bus e
  case conversing =>
    intro γ σ _ _ turns bus e
    exact Serving.serve_ne_busy Dialogue.returns hn turns bus e

/-- A caller whose medium never moves. -/
def stalledCaller : Caller 16 Detached :=
  ⟨⟨.idle ⟨⟩, .zeroed 16, .header, {}, 0⟩, {}⟩

/-- A call that times out with its frame on the link, and an inquiry that times out while it waits for that frame. -/
def timeouts : List Caller.Act :=
  [.call 4 (.blocking (.showing fun _ => 1000) (.request 0 .protocolVersion)),
    .inquire 4 (.showing fun _ => 1000) .firmwareVersion]

theorem timeouts_sending : ∃ c', (timeouts.foldlM Caller.Act.run stalledCaller).result = .ok c' ∧
    c'.endpoint.isSending = true := by
  have hrun : (timeouts.foldlM Caller.Act.run stalledCaller).result.toOption.map
      (fun c' => c'.endpoint.isSending) = some true := by cbv
  obtain ⟨c', hok, hsending⟩ := Option.map_eq_some_iff.mp hrun
  exact ⟨c', Outcomes.toOption_eq_some.mp hok, hsending⟩

/-- After the timeouts it is the frame of the owner that stops the work, and without it nothing does. -/
theorem busy_iff_intrusion_timeouts : Header.size < 16 ∧
    ((timeouts ++ [Caller.Act.use (.start (.message ⟨7, 1, 0, [9]⟩))]).foldlM Caller.Act.run stalledCaller).result =
      .error .busy ∧
    (timeouts.foldlM Caller.Act.run stalledCaller).result ≠ .error .busy := by
  have hn : Header.size < 16 := by decide
  have hcallers := (busy_iff_intrusion hn).1 stalledCaller
  obtain ⟨c', hrun, hsending⟩ := timeouts_sending
  refine ⟨hn, (hcallers _).mpr ⟨timeouts, _, [], c', rfl, hrun, rfl, hsending⟩, ?_⟩
  rw [Ne, hcallers]
  rintro ⟨before, act, after, _, hacts, _, hstarts, _⟩
  have hmem : act ∈ timeouts := by
    rw [hacts]
    exact List.mem_append_right _ List.mem_cons_self
  have hnone : ∀ act ∈ timeouts, act.starts = false := by
    intro act hact
    simp only [timeouts, List.mem_cons, List.not_mem_nil, or_false] at hact
    obtain rfl | rfl := hact <;> rfl
  cases (hnone act hmem).symm.trans hstarts

end BusBridge

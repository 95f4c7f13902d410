import BusBridge.Bench.Listener
import BusBridge.Line.Feed
import BusBridge.Proofs.Polling
/-!
# Handlers under watch

A handler meets its endpoint in two places: it is given messages, and it is told that a frame was sent. `Watched`
keeps a log of these occasions, with the handler and the frame on the link before and after each of them, and
changes nothing else. So the frames that were started during a run can be read off the log (`Watched.started`).

A handler can use a link only through its operations: write a payload while the link is idle, and start frames.
`Link.Used` is what comes of that. A link that is busy stays as it is (`Link.Used.busy`), and every handler of
this library uses its link in that way (`UsesLink`).

An endpoint may be moved on in many ways, polled in one direction or in both, or told of blocks that someone
else transferred. Whatever is kept by both kinds of occasions, and by the medium in between, is kept by all of
these (`Drive.Keeps`, `Drive.runAll_keeps`).
-/

namespace BusBridge

/-! ## What a handler can do to a link -/

namespace Link

variable {n : Nat} {δ φ : Type} [Medium δ φ]

/-- The second link is the first one after it was used through its operations. -/
inductive Used (l : Link n δ) : Link n δ → Prop where
  | refl : Used l l
  | writePayload {l₁ : Link n δ} (data : Bytes) : Used l l₁ → l₁.sending = none → Used l (l₁.writePayload data)
  | send {l₁ l₂ : Link n δ} {frame : Bytes} {result : Except TooLarge Unit} : Used l l₁ →
      (l₁.send frame).result = .ok (result, l₂) → Used l l₂
  | commit {l₁ l₂ : Link n δ} {component operation channel : UInt8} {length : Nat} {result : Except TooLarge Unit} :
      Used l l₁ → (l₁.commit component operation channel length).result = .ok (result, l₂) → Used l l₂

variable {l l₁ l₂ : Link n δ}

theorem Used.sendMessage {m : Message} {result : Except TooLarge Unit} (h : l.Used l₁)
    (hrun : (l₁.sendMessage m).result = .ok (result, l₂)) : l.Used l₂ := by
  obtain ⟨hidle, hrest⟩ := idle_of_requireIdle hrun
  split at hrest
  · cases hrest
    exact h
  · obtain ⟨_, hcommit⟩ := idle_of_requireIdle hrest
    exact (h.writePayload m.payload hidle).commit hcommit

/-- Nothing happens to a link that is busy. -/
theorem Used.busy {size : Nat} (h : l.Used l₁) (hbusy : l.sending = some size) : l₁ = l := by
  induction h with
  | refl => rfl
  | writePayload data _ hidle ih =>
    rw [ih, hbusy] at hidle
    cases hidle
  | send _ hrun ih =>
    have hidle := (idle_of_requireIdle hrun).1
    rw [ih, hbusy] at hidle
    cases hidle
  | commit _ hrun ih =>
    have hidle := (idle_of_requireIdle hrun).1
    rw [ih, hbusy] at hidle
    cases hidle

/-- A frame that is on the link stays there. -/
theorem Used.armed {frame : Bytes} (h : l.Used l₁) (harmed : l.armed? = some frame) : l₁ = l := by
  obtain ⟨size, hsize, _⟩ := Option.map_eq_some_iff.mp harmed
  exact h.busy hsize

/-- At most one frame is started on a link that is idle. -/
theorem Used.starts (hn : Header.size < n) (h : l.Used l₁) (hidle : l.sending = none) :
    (l₁.sending = none ∧ l₁.medium = l.medium) ∨ ∃ frame, l.Starts l₁ frame := by
  induction h with
  | refl => exact .inl ⟨hidle, rfl⟩
  | writePayload data _ hfree ih =>
    obtain ⟨_, hmedium⟩ | ⟨frame, hstarts⟩ := ih
    · exact .inl ⟨hfree, hmedium⟩
    · cases (armed?_idle hfree).symm.trans hstarts.armed
  | send _ hrun ih =>
    have hfree := (idle_of_requireIdle hrun).1
    obtain ⟨_, hmedium⟩ | ⟨frame, hstarts⟩ := ih
    · obtain ⟨_, hnext⟩ | ⟨_, hnext⟩ := send_cases hrun
      · exact .inr ⟨_, hidle, hnext.armed, hmedium ▸ hnext.medium⟩
      · exact .inl ⟨hnext.left, hnext.medium.trans hmedium⟩
    · cases (armed?_idle hfree).symm.trans hstarts.armed
  | commit _ hrun ih =>
    have hfree := (idle_of_requireIdle hrun).1
    obtain ⟨_, hmedium⟩ | ⟨frame, hstarts⟩ := ih
    · obtain ⟨_, hnext⟩ | ⟨_, hnext⟩ := commit_cases hn hrun
      · exact .inr ⟨_, hidle, hnext.armed, hmedium ▸ hnext.medium⟩
      · exact .inl ⟨hnext.left, hnext.medium.trans hmedium⟩
    · cases (armed?_idle hfree).symm.trans hstarts.armed

end Link

/-- The handler uses its link through the operations of the link. -/
class UsesLink (η : Type) [Handler η] : Prop where
  onMessage : ∀ {n : Nat} {δ φ : Type} [Medium δ φ] {h h' : η} {m : Message} {l l' : Link n δ},
    (Handler.onMessage h m l).result = .ok (h', l') → l.Used l'
  onSent : ∀ {n : Nat} {δ φ : Type} [Medium δ φ] {h h' : η} {l l' : Link n δ},
    (Handler.onSent h l).result = .ok (h', l') → l.Used l'

instance : UsesLink ResponseSlot where
  onMessage hrun := by
    obtain ⟨slot, _, hrest⟩ := Run.result_bind_eq_ok.mp hrun
    cases hrest
    exact .refl
  onSent hrun := by
    cases hrun
    exact .refl

instance {κ : Type} [Service κ] : UsesLink (Router κ) where
  onMessage {n δ _ _ r r' m l l'} hrun := by
    have hrun : (r.dispatch m l).result = .ok (r', l') := hrun
    unfold Router.dispatch at hrun
    cases hget : r.get? m.component with
    | none =>
      simp only [hget] at hrun
      cases hrun
      exact .refl
    | some service =>
      cases hsending : l.sending with
      | some size =>
        have hbusy : l.isBusy = true := by
          rw [Link.isBusy, hsending]
          rfl
        simp only [hget, hbusy, if_true] at hrun
        cases hrun
        exact .refl
      | none =>
        have hbusy : l.isBusy = false := by
          rw [Link.isBusy, hsending]
          rfl
        simp only [hget, hbusy, Bool.false_eq_true, if_false, Run.result_bind, Run.result_lift,
          Outcomes.ok_bind] at hrun
        rcases hreply : (Router.reply service m l.payload).value with ⟨outcome, reply, service'⟩
        rw [hreply] at hrun
        have hwritten := Link.Used.refl.writePayload reply.draft.block hsending
        cases outcome with
        | notImplemented =>
          cases hrun
          exact hwritten
        | replied =>
          obtain ⟨⟨result, l₁⟩, hcommit, hrest⟩ := Run.result_bind_eq_ok.mp hrun
          cases result <;> cases hrest <;> exact hwritten.commit hcommit
  onSent hrun := by
    cases hrun
    exact .refl

namespace Dialogue

variable {γ δ : Type} {n : Nat} {φ : Type} [Medium δ φ] {d d' : Dialogue γ} {l l' : Link n δ}

theorem flush_used (hrun : (d.flush l).result = .ok (d', l')) : l.Used l' := by
  unfold flush at hrun
  cases hpending : d.pending with
  | none =>
    simp only [hpending] at hrun
    cases hrun
    exact .refl
  | some request =>
    simp only [hpending] at hrun
    split at hrun
    · cases hrun
      exact .refl
    · obtain ⟨⟨result, l₁⟩, hsend, hrest⟩ := Run.result_bind_eq_ok.mp hrun
      cases result <;> cases hrest <;> exact Link.Used.refl.sendMessage hsend

variable [Conversation γ]

theorem advance_used {message : Option Message} (hrun : (d.advance message l).result = .ok (d', l')) : l.Used l' := by
  unfold advance at hrun
  simp only [Run.result_bind, Run.result_lift, Outcomes.ok_bind] at hrun
  rcases hnext : (Conversation.next d.step message).value with ⟨step, request⟩
  rw [hnext] at hrun
  cases request with
  | none =>
    cases hrun
    exact .refl
  | some request =>
    simp only at hrun
    split at hrun
    · simp only [Run.result_bind, Run.result_lift, Outcomes.ok_bind] at hrun
      exact flush_used hrun
    · exact flush_used hrun

instance : UsesLink (Dialogue γ) where
  onMessage {n δ _ _ d d' m l l'} hrun := by
    simp only [Handler.onMessage] at hrun
    split at hrun
    · cases hrun
      exact .refl
    · exact advance_used hrun
  onSent hrun := flush_used hrun

end Dialogue

namespace Bench

variable {δ : Type} {n : Nat} {φ : Type} [Medium δ φ] {r r' : Recorder} {l l' : Link n δ}

theorem Recorder.onMessage_used {m : Message} (hrun : (r.onMessage m l).result = .ok (r', l')) : l.Used l' := by
  unfold Recorder.onMessage at hrun
  simp only [Run.result_bind, Run.result_lift, Outcomes.ok_bind] at hrun
  split at hrun
  · obtain ⟨⟨result, l₁⟩, hsend, hrest⟩ := Run.result_bind_eq_ok.mp hrun
    cases result <;> cases hrest <;> exact Link.Used.refl.sendMessage hsend
  · cases hrun
    exact .refl

theorem Recorder.onSent_used (hrun : (r.onSent l).result = .ok (r', l')) : l.Used l' := by
  unfold Recorder.onSent at hrun
  simp only [Run.result_bind, Run.result_lift, Outcomes.ok_bind] at hrun
  cases hqueue : r.queue with
  | nil =>
    simp only [hqueue] at hrun
    cases hrun
    exact .refl
  | cons frame queue =>
    simp only [hqueue] at hrun
    obtain ⟨⟨result, l₁⟩, hsend, hrest⟩ := Run.result_bind_eq_ok.mp hrun
    cases result <;> cases hrest <;> exact Link.Used.refl.send hsend

instance : UsesLink Listener where
  onMessage {n δ _ _ h h' m l l'} hrun := by
    cases h with
    | recorder r =>
      obtain ⟨⟨r', l₁⟩, hinner, hrest⟩ := Run.result_bind_eq_ok.mp hrun
      cases hrest
      exact Recorder.onMessage_used hinner
    | slot s | light d | talk d | router r =>
      obtain ⟨⟨h₁, l₁⟩, hinner, hrest⟩ := Run.result_bind_eq_ok.mp hrun
      cases hrest
      exact UsesLink.onMessage hinner
  onSent {n δ _ _ h h' l l'} hrun := by
    cases h with
    | recorder r =>
      obtain ⟨⟨r', l₁⟩, hinner, hrest⟩ := Run.result_bind_eq_ok.mp hrun
      cases hrest
      exact Recorder.onSent_used hinner
    | light d | talk d =>
      obtain ⟨⟨h₁, l₁⟩, hinner, hrest⟩ := Run.result_bind_eq_ok.mp hrun
      cases hrest
      exact UsesLink.onSent hinner
    | slot s | router r =>
      cases hrun
      exact .refl

end Bench

/-! ## The log of a handler -/

/-- A call of a handler, with what it found and what it left. -/
structure Occasion (η : Type) where
  /-- the message that it was given, none if it was told that a frame was sent -/
  message : Option Message
  before : η
  after : η
  /-- the frame that was on the link -/
  armed : Option Bytes
  /-- the frame that is on the link now -/
  left : Option Bytes

/-- The frame that was started, which is one on a link that was idle before. -/
def Occasion.started {η : Type} (o : Occasion η) : Option Bytes :=
  match o.armed with
  | none => o.left
  | some _ => none

/-- A frame that was on the link before is none that was started. -/
theorem Occasion.started_of_left {η : Type} {o : Occasion η} (h : o.left = o.armed) : o.started = none := by
  unfold started
  cases harmed : o.armed with
  | none => exact h.trans harmed
  | some frame => rfl

/-- A handler with the occasions on which it was called, the first one first. -/
structure Watched (η : Type) where
  handler : η
  log : List (Occasion η) := []

instance {η : Type} [Handler η] : Handler (Watched η) where
  onMessage w m link := do
    let (handler, link') ← Handler.onMessage w.handler m link
    pure (⟨handler, w.log ++ [⟨some m, w.handler, handler, link.armed?, link'.armed?⟩]⟩, link')
  onSent w link := do
    let (handler, link') ← Handler.onSent w.handler link
    pure (⟨handler, w.log ++ [⟨none, w.handler, handler, link.armed?, link'.armed?⟩]⟩, link')

namespace Watched

/-- The frames that were started, in order. -/
def started {η : Type} (w : Watched η) : List Bytes :=
  w.log.filterMap Occasion.started

theorem started_snoc {η : Type} {w w' : Watched η} {o : Occasion η} (h : w'.log = w.log ++ [o]) :
    w'.started = w.started ++ o.started.toList := by
  rw [started, h, List.filterMap_append]
  cases hstarted : o.started <;> simp [started, hstarted]

variable {n : Nat} {δ η φ : Type} [Medium δ φ] [Handler η] {w w' : Watched η} {l l' : Link n δ}

theorem onMessage_ok {m : Message} (h : (Handler.onMessage w m l).result = .ok (w', l')) :
    (Handler.onMessage w.handler m l).result = .ok (w'.handler, l') ∧
      w'.log = w.log ++ [⟨some m, w.handler, w'.handler, l.armed?, l'.armed?⟩] := by
  obtain ⟨⟨handler, link⟩, hinner, hrest⟩ := Run.result_bind_eq_ok.mp h
  cases hrest
  exact ⟨hinner, rfl⟩

theorem onSent_ok (h : (Handler.onSent w l).result = .ok (w', l')) :
    (Handler.onSent w.handler l).result = .ok (w'.handler, l') ∧
      w'.log = w.log ++ [⟨none, w.handler, w'.handler, l.armed?, l'.armed?⟩] := by
  obtain ⟨⟨handler, link⟩, hinner, hrest⟩ := Run.result_bind_eq_ok.mp h
  cases hrest
  exact ⟨hinner, rfl⟩

theorem returns (h : HandlerReturns η) : HandlerReturns (Watched η) := by
  intro n δ _ _ hn w l
  refine ⟨fun m => ?_, ?_⟩
  · obtain ⟨s, hs⟩ := (h hn w.handler l).1 m
    exact ⟨_, Run.result_bind_eq_ok.mpr ⟨s, hs, rfl⟩⟩
  · obtain ⟨s, hs⟩ := (h hn w.handler l).2
    exact ⟨_, Run.result_bind_eq_ok.mpr ⟨s, hs, rfl⟩⟩

end Watched

/-! ## Any way to move an endpoint on -/

/-- A way to move an endpoint on. -/
inductive Drive where
  | receive
  | send
  | both (rounds : Nat)
  /-- someone else received the armed block -/
  | accept (data : Bytes)
  /-- someone else sent the armed frame -/
  | sent
  | abandon

namespace Drive

variable {n : Nat} {δ η φ : Type} [Medium δ φ] [Handler η] {e e' : Endpoint n δ η}

def run (e : Endpoint n δ η) : Drive → Run (Endpoint n δ η)
  | receive => do
    let (_, e) ← e.pollReceive
    pure e
  | send => do
    let (_, e) ← e.pollSend
    pure e
  | both rounds => do
    let (_, e) ← e.poll rounds
    pure e
  | accept data => do
    let (_, e) ← e.accept data
    pure e
  | sent => e.blockSent
  | abandon => e.abandonSend

/-- Move an endpoint on in one way after the other. -/
def runAll (e : Endpoint n δ η) (drives : List Drive) : Run (Endpoint n δ η) :=
  drives.foldlM run e

/-- What is kept whenever the handler is called, and whenever its endpoint turns to the medium. -/
structure Keeps (P : η → Link n δ → Prop) : Prop where
  message : ∀ {h h' : η} {m : Message} {l l' : Link n δ}, P h l →
    (Handler.onMessage h m l).result = .ok (h', l') → P h' l'
  report : ∀ {h h' : η} {l l' : Link n δ} {size : Nat}, P h l → l.sending = some size →
    (Handler.onSent h { l with sending := none }).result = .ok (h', l') → P h' l'
  arm : ∀ {h : η} {l : Link n δ} (size : Nat), P h l → P h { l with medium := Medium.armReceive l.medium size }
  receive : ∀ {h : η} {l : Link n δ} (block : Bytes), P h l →
    P h { l with medium := (Medium.pollReceive l.medium block).2.2 }
  send : ∀ {h : η} {l : Link n δ} (frame : Bytes), P h l →
    P h { l with medium := (Medium.pollSend l.medium frame).value.2 }

namespace Keeps

variable {P : η → Link n δ → Prop}

theorem blockReceived {result : Except Oversized Unit} (hkeeps : Keeps P) (h : P e.handler e.link)
    (hrun : e.blockReceived.result = .ok (result, e')) : P e'.handler e'.link := by
  obtain ⟨delivered, hhands⟩ := Endpoint.handsOver_of_blockReceived hrun
  cases hhands with
  | nothing hhandler hlink =>
    rw [hhandler, hlink]
    exact hkeeps.arm _ h
  | message honMessage hhandler hlink =>
    rw [hhandler, hlink]
    exact hkeeps.arm _ (hkeeps.message h honMessage)

theorem blockSent (hkeeps : Keeps P) (h : P e.handler e.link) (hrun : e.blockSent.result = .ok e') :
    P e'.handler e'.link := by
  cases hsending : e.link.sending with
  | none =>
    unfold Endpoint.blockSent at hrun
    rw [hsending] at hrun
    cases hrun
    exact h
  | some size =>
    have harmed : e.link.armed? = some (e.link.buffer.slice 0 size) := by rw [Link.armed?, hsending]; rfl
    rw [Endpoint.blockSent_result harmed, Outcomes.bind_eq_ok] at hrun
    obtain ⟨r, hr, hrest⟩ := hrun
    cases hrest
    exact hkeeps.report h hsending hr

theorem pollReceive {result : Except (PollError φ) Bool} (hkeeps : Keeps P) (h : P e.handler e.link)
    (hrun : e.pollReceive.result = .ok (result, e')) : P e'.handler e'.link := by
  unfold Endpoint.pollReceive at hrun
  have hpolled := hkeeps.receive e.armed h
  rcases hpoll : Medium.pollReceive e.link.medium e.armed with ⟨received, block, medium⟩
  simp only [hpoll] at hrun hpolled
  rcases received with kind | done
  · cases hrun
    exact hpolled
  · cases done with
    | false =>
      cases hrun
      exact hpolled
    | true =>
      obtain ⟨⟨reported, e₁⟩, hreport, hrest⟩ := Run.result_bind_eq_ok.mp hrun
      have hkept := hkeeps.blockReceived (e := { e.store 0 block with link.medium := medium }) hpolled hreport
      cases reported <;> cases hrest <;> exact hkept

theorem pollSend {result : Except (PollError φ) Bool} (hkeeps : Keeps P) (h : P e.handler e.link)
    (hrun : e.pollSend.result = .ok (result, e')) : P e'.handler e'.link := by
  unfold Endpoint.pollSend at hrun
  cases hframe : e.link.armed? with
  | none =>
    simp only [hframe] at hrun
    cases hrun
    exact h
  | some frame =>
    simp only [hframe, Run.result_bind, Run.result_lift, Outcomes.ok_bind] at hrun
    have hpolled := hkeeps.send frame h
    rcases hpoll : (Medium.pollSend e.link.medium frame).value with ⟨kind | done, medium⟩
    · rw [hpoll] at hrun hpolled
      cases hrun
      exact hpolled
    · rw [hpoll] at hrun hpolled
      cases done with
      | false =>
        cases hrun
        exact hpolled
      | true =>
        obtain ⟨e₁, hsent, hrest⟩ := Run.result_bind_eq_ok.mp hrun
        cases hrest
        exact hkeeps.blockSent (e := { e with link.medium := medium }) hpolled hsent

theorem poll {rounds : Nat} {result : Except (PollError φ) Bool} (hkeeps : Keeps P) (h : P e.handler e.link)
    (hrun : (e.poll rounds).result = .ok (result, e')) : P e'.handler e'.link := by
  refine Endpoint.poll_keeps (fun _ e => P e.handler e.link) ?_ ?_ [] h hrun
  · intro _ _ _ _ h hsend
    exact hkeeps.pollSend h hsend
  · intro _ _ _ _ h hreceive
    exact hkeeps.pollReceive h hreceive

/-- What is kept so is kept however the endpoint is moved on, if giving up a frame keeps it, too. -/
theorem run {drive : Drive} (hkeeps : Keeps P)
    (habandon : drive = .abandon → P e.handler e.link → P e.handler e.link.abandon.value) (h : P e.handler e.link)
    (hrun : (drive.run e).result = .ok e') : P e'.handler e'.link := by
  cases drive with
  | receive =>
    obtain ⟨⟨result, e₁⟩, hpoll, hrest⟩ := Run.result_bind_eq_ok.mp hrun
    cases hrest
    exact hkeeps.pollReceive h hpoll
  | send =>
    obtain ⟨⟨result, e₁⟩, hpoll, hrest⟩ := Run.result_bind_eq_ok.mp hrun
    cases hrest
    exact hkeeps.pollSend h hpoll
  | both rounds =>
    obtain ⟨⟨result, e₁⟩, hpoll, hrest⟩ := Run.result_bind_eq_ok.mp hrun
    cases hrest
    exact hkeeps.poll h hpoll
  | accept data =>
    obtain ⟨⟨result, e₁⟩, haccept, hrest⟩ := Run.result_bind_eq_ok.mp hrun
    cases hrest
    exact hkeeps.blockReceived (e := e.store 0 data) h haccept
  | sent => exact hkeeps.blockSent h hrun
  | abandon =>
    cases hrun
    exact habandon rfl h

end Keeps

/-- What the occasions of a handler keep is kept however its endpoint is moved on. -/
theorem runAll_keeps (P : η → Prop)
    (message : ∀ {h h' : η} {m : Message} {l l' : Link n δ}, P h → (Handler.onMessage h m l).result = .ok (h', l') →
      P h')
    (report : ∀ {h h' : η} {l l' : Link n δ}, P h → (Handler.onSent h l).result = .ok (h', l') → P h')
    {drives : List Drive} (h : P e.handler) (hrun : (runAll e drives).result = .ok e') : P e'.handler := by
  have hkeeps : Keeps (fun h (_ : Link n δ) => P h) :=
    ⟨message, fun h _ hsent => report h hsent, fun _ h => h, fun _ h => h, fun _ h => h⟩
  refine Run.foldlM_keeps (fun e => P e.handler) ?_ h hrun
  intro drive _ e₁ e₂ h₁ hdrive
  exact hkeeps.run (fun _ h => h) h₁ hdrive

/-- An endpoint is moved on if its handler lets it, except by a poll that uses up its rounds. -/
theorem run_returns (hreturns : HandlerReturns η) (hn : Header.size < n) (e : Endpoint n δ η) (drive : Drive) :
    (∃ e', (drive.run e).result = .ok e') ∨ (drive.run e).result = .error .exhausted := by
  cases drive with
  | receive =>
    obtain ⟨r, hr⟩ := Endpoint.pollReceive_returns hreturns hn e
    exact .inl ⟨r.2, Run.result_bind_eq_ok.mpr ⟨r, hr, rfl⟩⟩
  | send =>
    obtain ⟨r, hr⟩ := Endpoint.pollSend_returns hreturns hn e
    exact .inl ⟨r.2, Run.result_bind_eq_ok.mpr ⟨r, hr, rfl⟩⟩
  | both rounds =>
    obtain ⟨r, hr⟩ | hstop := Endpoint.poll_returns hreturns hn rounds e
    · exact .inl ⟨r.2, Run.result_bind_eq_ok.mpr ⟨r, hr, rfl⟩⟩
    · refine .inr ?_
      rw [run, Run.result_bind, hstop]
      rfl
  | accept data =>
    obtain ⟨r, hr⟩ := Endpoint.blockReceived_returns hreturns hn (e.store 0 data)
    exact .inl ⟨r.2, Run.result_bind_eq_ok.mpr ⟨r, hr, rfl⟩⟩
  | sent => exact .inl (Endpoint.blockSent_returns hreturns hn e)
  | abandon => exact .inl ⟨_, rfl⟩

theorem runAll_returns (hreturns : HandlerReturns η) (hn : Header.size < n) (e : Endpoint n δ η) (drives : List Drive) :
    (∃ e', (runAll e drives).result = .ok e') ∨ (runAll e drives).result = .error .exhausted := by
  induction drives generalizing e with
  | nil => exact .inl ⟨e, rfl⟩
  | cons drive rest ih =>
    simp only [runAll, List.foldlM_cons, Run.result_bind]
    obtain ⟨e₁, hfirst⟩ | hstop := run_returns hreturns hn e drive
    · rw [hfirst, Outcomes.ok_bind]
      exact ih e₁
    · rw [hstop]
      exact .inr rfl

end Drive

end BusBridge

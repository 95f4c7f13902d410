import Mathlib
import BusBridge.Bench.Script
import BusBridge.Proofs.Transfers
import BusBridge.Proofs.Watching
/-!
# The outgoing wire

Frames are started by the owner of an endpoint or by its handler, and given to the stream by polls that may stop
anywhere: in the middle of a frame, between the last byte and the flush, for a moment or because of a failure. The
owner may also give a frame up. Whatever happens, the bytes on the wire are whole frames in the order in which they
were started, except for the frames that were given up and for the one on the link, of which there is a part from
the front (`Deed.wire_of_frames`).

The milestones of a run are the starts, reports and losses of frames, in order. A `Sending` is a frame that is not on
the link any more, with the transfers since the one before it. The argument is one invariant, `Link.Chronicle`: the
milestones are those of some sendings and of the frame on the link, and the history of the stream is their transfers.
-/

namespace BusBridge

open Transfer

/-! ## Starting frames -/

/-- A way to start a frame. -/
inductive Start where
  | bytes (frame : Bytes)
  | message (m : Message)
  | request (channel : UInt8) (r : Request)
  /-- the first `length` bytes of the payload that was written in place -/
  | commit (component operation channel : UInt8) (length : Nat)

namespace Start

variable {n : Nat} {δ : Type}

/-- The frame that is asked for. -/
def frame (l : Link n δ) : Start → Bytes
  | bytes frame => frame
  | message m => m.frame
  | request channel r => (r.message channel).frame
  | commit component operation channel length =>
    (⟨component, operation, channel, l.payload.take length⟩ : Message).frame

variable {φ : Type} [Medium δ φ]

/-- Start a frame: whether it was accepted. -/
def run (l : Link n δ) : Start → Run (Bool × Link n δ)
  | bytes frame => do
    let (result, l) ← l.send frame
    pure (result.isOk, l)
  | message m => do
    let (result, l) ← l.sendMessage m
    pure (result.isOk, l)
  | request channel r => do
    let (result, l) ← l.sendRequest channel r
    pure (result.isOk, l)
  | commit component operation channel length => do
    let (result, l) ← l.commit component operation channel length
    pure (result.isOk, l)

/-- The frame that is asked for is started, or the link stays idle. -/
theorem run_cases {l l' : Link n δ} {s : Start} {accepted : Bool} (hn : Header.size < n)
    (hrun : (s.run l).result = .ok (accepted, l')) :
    (accepted = true ∧ l.Starts l' (s.frame l)) ∨ (accepted = false ∧ l.Declines l') := by
  cases s with
  | bytes frame =>
    obtain ⟨⟨result, l₁⟩, hsend, hrest⟩ := Run.result_bind_eq_ok.mp hrun
    cases hrest
    obtain ⟨rfl, hstarts⟩ | ⟨⟨error, rfl⟩, hdeclines⟩ := Link.send_cases hsend
    · exact .inl ⟨rfl, hstarts⟩
    · exact .inr ⟨rfl, hdeclines⟩
  | message m =>
    obtain ⟨⟨result, l₁⟩, hsend, hrest⟩ := Run.result_bind_eq_ok.mp hrun
    cases hrest
    obtain ⟨rfl, hstarts⟩ | ⟨⟨error, rfl⟩, hdeclines⟩ := Link.sendMessage_cases hn hsend
    · exact .inl ⟨rfl, hstarts⟩
    · exact .inr ⟨rfl, hdeclines⟩
  | request channel r =>
    obtain ⟨⟨result, l₁⟩, hsend, hrest⟩ := Run.result_bind_eq_ok.mp hrun
    cases hrest
    obtain ⟨rfl, hstarts⟩ | ⟨⟨error, rfl⟩, hdeclines⟩ := Link.sendRequest_cases hn hsend
    · exact .inl ⟨rfl, hstarts⟩
    · exact .inr ⟨rfl, hdeclines⟩
  | commit component operation channel length =>
    obtain ⟨⟨result, l₁⟩, hsend, hrest⟩ := Run.result_bind_eq_ok.mp hrun
    cases hrest
    obtain ⟨rfl, hstarts⟩ | ⟨⟨error, rfl⟩, hdeclines⟩ := Link.commit_cases hn hsend
    · exact .inl ⟨rfl, hstarts⟩
    · exact .inr ⟨rfl, hdeclines⟩

end Start

/-! ## Milestones -/

/-- What becomes of frames. -/
inductive Milestone where
  | started (frame : Bytes)
  /-- the handler was told that the frame on the link was sent -/
  | sent
  | abandoned
deriving DecidableEq

/-- The milestones of an occasion. A frame that the handler starts comes after the one that it is told of. -/
def Occasion.milestones {η : Type} (o : Occasion η) : List Milestone :=
  (if o.message.isNone then [.sent] else []) ++ o.started.toList.map .started

theorem Occasion.count_sent {η : Type} (log : List (Occasion η)) :
    (log.flatMap Occasion.milestones).count .sent = log.countP (·.message.isNone) := by
  induction log with
  | nil => rfl
  | cons o rest ih =>
    have hstarted : (o.started.toList.map Milestone.started).count .sent = 0 := by
      cases o.started <;> simp
    rw [List.flatMap_cons, List.count_append, ih, List.countP_cons, Occasion.milestones, List.count_append, hstarted]
    cases o.message <;> simp [Nat.add_comm]

/-- The milestones since an earlier moment. -/
def Watched.since {η : Type} (w earlier : Watched η) : List Milestone :=
  (w.log.drop earlier.log.length).flatMap Occasion.milestones

/-- A frame that is not on the link any more. -/
structure Sending where
  frame : Bytes
  /-- it was sent, or else it was given up -/
  complete : Bool
  /-- what passed since the sending before -/
  transfers : List Transfer

namespace Sending

def milestones (s : Sending) : List Milestone :=
  [.started s.frame, if s.complete then .sent else .abandoned]

/-- A frame that was sent has been given as a whole, and was flushed then. Of a frame that was given up, a part
from the front has been given. -/
def Faithful (s : Sending) : Prop :=
  if s.complete then ∃ during, s.transfers = during ++ [.flushed] ∧ outflow during = s.frame
  else outflow s.transfers <+: s.frame

end Sending

/-! ## The chronicle of a link -/

namespace Link

variable {n : Nat} {σ : Type}

/-- The milestones of a link, and what passed through its stream, come from the same sendings and from the frame that
is on the link now. -/
structure Chronicle (l : Link n (StreamMedium (Tap σ))) (milestones : List Milestone) (past : List Sending)
    (now : List Transfer) : Prop where
  milestones : milestones = past.flatMap Sending.milestones ++ l.armed?.toList.map .started
  history : l.medium.stream.history = past.flatMap Sending.transfers ++ now
  faithful : ∀ s ∈ past, s.Faithful
  /-- of the frame on the link, as much was given as the medium has counted -/
  given : outflow now = (l.armed?.getD []).take l.medium.sent
  counted : ∀ frame, l.armed? = some frame → l.medium.sent ≤ frame.length

namespace Chronicle

variable {l l' : Link n (StreamMedium (Tap σ))} {milestones : List Milestone} {past : List Sending}
    {now : List Transfer}
  {frame : Bytes} {pieces : List Bytes}

/-- Bytes that are taken say nothing about frames. -/
theorem takes (h : l.Chronicle milestones past now) (harmed : l'.armed? = l.armed?)
    (hsent : l'.medium.sent = l.medium.sent)
    (hhistory : l'.medium.stream.history = l.medium.stream.history ++ pieces.map .taken) :
    l'.Chronicle milestones past (now ++ pieces.map .taken) := by
  refine ⟨?_, ?_, h.faithful, ?_, ?_⟩
  · rw [harmed, ← h.milestones]
  · rw [hhistory, h.history, List.append_assoc]
  · rw [outflow_append, outflow_taken, List.append_nil, harmed, hsent, h.given]
  · rw [harmed, hsent]
    exact h.counted

theorem congr (h : l.Chronicle milestones past now) (harmed : l'.armed? = l.armed?)
    (hsent : l'.medium.sent = l.medium.sent) (hstream : l'.medium.stream = l.medium.stream) :
    l'.Chronicle milestones past now := by
  have hhistory : l'.medium.stream.history = l.medium.stream.history ++ ([] : List Bytes).map .taken := by
    rw [hstream, List.map_nil, List.append_nil]
  have hsame := h.takes harmed hsent hhistory
  rwa [List.map_nil, List.append_nil] at hsame

/-- While the link is idle, only the stream matters. -/
theorem idle (h : l.Chronicle milestones past now) (hbefore : l.armed? = none) (hafter : l'.armed? = none)
    (hstream : l'.medium.stream = l.medium.stream) : l'.Chronicle milestones past now := by
  refine ⟨?_, ?_, h.faithful, ?_, ?_⟩
  · rw [hafter, ← hbefore, ← h.milestones]
  · rw [hstream, h.history]
  · rw [h.given, hbefore, hafter, Option.getD_none, List.take_nil, List.take_nil]
  · intro frame harmed
    rw [hafter] at harmed
    cases harmed

/-- Bytes of the frame on the link are given from where the medium stopped. -/
theorem gives (h : l.Chronicle milestones past now) (harmed : l.armed? = some frame) (harmed' : l'.armed? = some frame)
    (hfront : pieces.flatten <+: frame.drop l.medium.sent)
    (hsent : l'.medium.sent = l.medium.sent + pieces.flatten.length)
    (hhistory : l'.medium.stream.history = l.medium.stream.history ++ pieces.map .given) :
    l'.Chronicle milestones past (now ++ pieces.map .given) := by
  have hle := h.counted frame harmed
  have hroom := hfront.length_le
  rw [List.length_drop] at hroom
  refine ⟨?_, ?_, h.faithful, ?_, ?_⟩
  · rw [harmed', ← harmed, ← h.milestones]
  · rw [hhistory, h.history, List.append_assoc]
  · rw [outflow_append, outflow_given, h.given, harmed, harmed', hsent, Option.getD_some, List.take_add]
    exact congrArg _ (List.prefix_iff_eq_take.mp hfront)
  · intro frame' harmed''
    cases harmed'.symm.trans harmed''
    omega

/-- A frame of which the last bytes were given, and flushed, is a sending. -/
theorem completes (h : l.Chronicle milestones past now) (harmed : l.armed? = some frame) (hidle : l'.armed? = none)
    (hwhole : pieces.flatten = frame.drop l.medium.sent)
    (hhistory : l'.medium.stream.history = l.medium.stream.history ++ pieces.map .given ++ [.flushed]) :
    l'.Chronicle (milestones ++ [.sent]) (past ++ [⟨frame, true, now ++ pieces.map .given ++ [.flushed]⟩]) [] := by
  refine ⟨?_, ?_, ?_, ?_, ?_⟩
  · rw [h.milestones, harmed, hidle, List.flatMap_append]
    simp [Sending.milestones]
  · rw [hhistory, h.history, List.flatMap_append]
    simp
  · intro s hs
    obtain hs | hs := List.mem_append.mp hs
    · exact h.faithful s hs
    · cases List.mem_singleton.mp hs
      refine ⟨_, rfl, ?_⟩
      rw [outflow_append, outflow_given, h.given, harmed, hwhole, Option.getD_some, List.take_append_drop]
  · rw [hidle, Option.getD_none, List.take_nil]
    rfl
  · intro frame' harmed'
    rw [hidle] at harmed'
    cases harmed'

/-- A frame that is given up is a sending, too. -/
theorem abandons (h : l.Chronicle milestones past now) (harmed : l.armed? = some frame) (hidle : l'.armed? = none)
    (hstream : l'.medium.stream = l.medium.stream) :
    l'.Chronicle (milestones ++ [.abandoned]) (past ++ [⟨frame, false, now⟩]) [] := by
  refine ⟨?_, ?_, ?_, ?_, ?_⟩
  · rw [h.milestones, harmed, hidle, List.flatMap_append]
    simp [Sending.milestones]
  · rw [hstream, h.history, List.flatMap_append]
    simp
  · intro s hs
    obtain hs | hs := List.mem_append.mp hs
    · exact h.faithful s hs
    · cases List.mem_singleton.mp hs
      change outflow now <+: frame
      rw [h.given, harmed, Option.getD_some]
      exact List.take_prefix _ _
  · rw [hidle, Option.getD_none, List.take_nil]
    rfl
  · intro frame' harmed'
    rw [hidle] at harmed'
    cases harmed'

/-- The bytes on the wire, frame by frame. -/
theorem wire (h : l.Chronicle milestones past now) : l.medium.stream.given =
    (past.flatMap fun s => outflow s.transfers) ++ (l.armed?.getD []).take l.medium.sent := by
  have hpast : outflow (past.flatMap Sending.transfers) = past.flatMap fun s => outflow s.transfers := by
    rw [outflow, List.flatMap_assoc]
    rfl
  rw [Tap.given_eq, h.history, outflow_append, hpast, h.given]

/-- A handler was told of the frames that were sent, and of no others. -/
theorem count_sent (h : l.Chronicle milestones past now) : milestones.count .sent = past.countP (·.complete) := by
  have hpast : (past.flatMap Sending.milestones).count .sent = past.countP (·.complete) := by
    clear h
    induction past with
    | nil => rfl
    | cons s rest ih =>
      rw [List.flatMap_cons, List.count_append, ih, List.countP_cons, Nat.add_comm]
      cases hcomplete : s.complete <;> simp [Sending.milestones, hcomplete]
  have harmed : (l.armed?.toList.map Milestone.started).count .sent = 0 := by
    cases l.armed? <;> simp
  rw [h.milestones, List.count_append, hpast, harmed, Nat.add_zero]

variable [Stream σ]

/-- Nothing has happened to the link of a new endpoint. -/
theorem fresh (source : σ) : (Link.idle (Medium.armReceive { stream := ⟨source, []⟩ } Header.size) :
    Link n (StreamMedium (Tap σ))).Chronicle [] [] [] := by
  refine ⟨rfl, rfl, ?_, rfl, ?_⟩
  · intro s hs
    cases hs
  · intro frame harmed
    cases harmed

theorem starts (h : l.Chronicle milestones past now) (hstarts : l.Starts l' frame) :
    l'.Chronicle (milestones ++ [.started frame]) past now := by
  have hidle := armed?_idle hstarts.idle
  refine ⟨?_, ?_, h.faithful, ?_, ?_⟩
  · rw [h.milestones, hidle, hstarts.armed]
    simp
  · rw [hstarts.medium, ← h.history]
    rfl
  · rw [h.given, hidle, hstarts.medium, Option.getD_none, List.take_nil]
    rfl
  · intro _ _
    rw [hstarts.medium]
    exact Nat.zero_le _

/-- What a handler does with the link is what its occasion says. -/
theorem used {η : Type} (hn : Header.size < n) (h : l.Chronicle milestones past now) (hused : l.Used l')
    (o : Occasion η) (harmed : o.armed = l.armed?) (hleft : o.left = l'.armed?) :
    l'.Chronicle (milestones ++ o.started.toList.map .started) past now := by
  rw [Occasion.started, harmed, hleft]
  cases hframe : l.armed? with
  | some frame =>
    rw [hused.armed hframe]
    simpa using h
  | none =>
    have hidle : l.sending = none := Option.map_eq_none_iff.mp hframe
    obtain ⟨hsending, hmedium⟩ | ⟨frame, hstarts⟩ := hused.starts hn hidle
    · have hnone := armed?_idle hsending
      rw [hnone]
      simpa using h.idle hframe hnone (by rw [hmedium])
    · rw [hstarts.armed]
      exact h.starts hstarts

end Chronicle

variable [Stream σ] {l : Link n (StreamMedium σ)}

theorem abandon_idle (h : l.sending = none) : l.abandon.value = l := by
  rw [abandon, isBusy, h]
  rfl

theorem abandon_busy {size : Nat} (h : l.sending = some size) :
    l.abandon.value.sending = none ∧ l.abandon.value.medium.stream = l.medium.stream := by
  have hcancel : Medium.Emits l.medium (Medium.cancelSend l.medium).value := .cancelSend .refl
  rw [abandon, isBusy, h]
  exact ⟨rfl, hcancel.stream.1⟩

end Link

/-! ## Polls -/

namespace Endpoint

variable {n : Nat} {σ η : Type}

/-- The log of the handler has grown since `log`, and the milestones of what is new in it continue a chronicle. -/
def Continues (e : Endpoint n (StreamMedium (Tap σ)) (Watched η)) (log : List (Occasion η))
    (milestones : List Milestone) : Prop :=
  ∃ new past now, e.handler.log = log ++ new ∧ e.link.Chronicle (milestones ++ new.flatMap Occasion.milestones) past now

variable {e e' : Endpoint n (StreamMedium (Tap σ)) (Watched η)} {log : List (Occasion η)} {milestones : List Milestone}

theorem Continues.since (h : e'.Continues e.handler.log milestones) :
    ∃ new past now, e'.handler.log = e.handler.log ++ new ∧
      e'.handler.since e.handler = new.flatMap Occasion.milestones ∧
      e'.link.Chronicle (milestones ++ e'.handler.since e.handler) past now := by
  obtain ⟨new, past, now, hlog, hlink⟩ := h
  have hsince : e'.handler.since e.handler = new.flatMap Occasion.milestones := by
    rw [Watched.since, hlog, List.drop_left]
  exact ⟨new, past, now, hlog, hsince, hsince ▸ hlink⟩

/-- One more occasion. -/
theorem Continues.snoc {new : List (Occasion η)} {o : Occasion η} {past : List Sending} {now : List Transfer}
    (hlog : e.handler.log = log ++ new ++ [o])
    (hlink : e.link.Chronicle (milestones ++ new.flatMap Occasion.milestones ++ o.milestones) past now) :
    e.Continues log milestones := by
  refine ⟨new ++ [o], past, now, ?_, ?_⟩
  · rw [hlog, List.append_assoc]
  · rw [List.flatMap_append, List.flatMap_singleton, ← List.append_assoc]
    exact hlink

variable [Stream σ] [Handler η] [UsesLink η] {result : Except PollError Bool}

/-- Sending gives bytes of the frame on the link. If these are the last ones, the frame is reported and the handler
may start the next one. -/
theorem Continues.pollSend (hn : Header.size < n) (h : e.Continues log milestones)
    (hrun : e.pollSend.result = .ok (result, e')) : e'.Continues log milestones := by
  obtain ⟨new, past, now, hlog, hlink⟩ := h
  cases hframe : e.link.armed? with
  | none =>
    unfold Endpoint.pollSend at hrun
    simp only [hframe] at hrun
    cases hrun
    exact ⟨new, past, now, hlog, hlink⟩
  | some frame =>
    obtain ⟨pieces, hgives⟩ := gives_of_pollSend hframe hrun
    generalize (Medium.pollSend e.link.medium frame).value.2.stream = stream at hgives
    cases hgives with
    | wait _ hfront hhistory => exact ⟨new, past, _, hlog, hlink.gives hframe hframe hfront rfl hhistory⟩
    | @report handler link hwhole hhistory honSent =>
      obtain ⟨hinner, hgrown⟩ := Watched.onSent_ok honSent
      have hidle : ({ (e.release pieces.flatten stream).link with sending := none } : Link n _).armed? = none := rfl
      have hcomplete := hlink.completes hframe hidle hwhole hhistory
      let o : Occasion η := ⟨none, e.handler.handler, handler.handler, none, link.armed?⟩
      have hlog' : handler.log = log ++ new ++ [o] := hgrown.trans (congrArg (· ++ [o]) hlog)
      have hused := hcomplete.used hn (UsesLink.onSent hinner) o rfl rfl
      rw [List.append_assoc] at hused
      exact Continues.snoc hlog' hused

/-- Receiving takes bytes. If these complete a frame, the handler may start one. -/
theorem Continues.pollReceive (hn : Header.size < n) (h : e.Continues log milestones)
    (hrun : e.pollReceive.result = .ok (result, e')) : e'.Continues log milestones := by
  obtain ⟨new, past, now, hlog, hlink⟩ := h
  unfold Endpoint.pollReceive at hrun
  obtain ⟨hsent, pieces, hhistory⟩ := StreamMedium.pollReceive_log e.link.medium e.armed
  rcases hpoll : Medium.pollReceive e.link.medium e.armed with ⟨received, block, medium⟩
  rw [hpoll] at hsent hhistory
  simp only [hpoll] at hrun
  have htakes : ({ e.link with medium } : Link n _).Chronicle _ past (now ++ pieces.map .taken) :=
    hlink.takes rfl hsent hhistory
  rcases received with kind | done
  · cases hrun
    exact ⟨new, past, _, hlog, htakes⟩
  · cases done with
    | false =>
      cases hrun
      exact ⟨new, past, _, hlog, htakes⟩
    | true =>
      obtain ⟨⟨report, e₁⟩, hreport, hrest⟩ := Run.result_bind_eq_ok.mp hrun
      have hsame : e' = e₁ := by cases report <;> cases hrest <;> rfl
      subst hsame
      obtain ⟨delivered, hhands⟩ := handsOver_of_blockReceived hreport
      cases hhands with
      | nothing hhandler harmed =>
        refine ⟨new, past, _, hhandler ▸ hlog, htakes.congr ?_ ?_ ?_⟩ <;> rw [harmed] <;> rfl
      | @message m handler link _ honMessage hhandler harmed =>
        obtain ⟨hinner, hgrown⟩ := Watched.onMessage_ok honMessage
        let o : Occasion η := ⟨some m, e.handler.handler, handler.handler, e.link.armed?, link.armed?⟩
        have hlog' : e'.handler.log = log ++ new ++ [o] := by
          rw [hhandler, hgrown]
          exact congrArg (· ++ [o]) hlog
        have hused := htakes.used hn (UsesLink.onMessage hinner) o rfl rfl
        refine Continues.snoc hlog' (hused.congr ?_ ?_ ?_) <;> rw [harmed] <;> rfl

end Endpoint

/-! ## What an owner can do -/

/-- Something that the owner of an endpoint does. -/
inductive Deed where
  | start (s : Start)
  /-- write a payload in place -/
  | write (data : Bytes)
  | receive
  | send
  | both (rounds : Nat)
  | abandon

namespace Deed

variable {n : Nat} {σ η : Type} [Stream σ] [Handler η]

/-- Do something with an endpoint, and tell its milestones. -/
def run (e : Endpoint n (StreamMedium σ) (Watched η)) :
    Deed → Run (List Milestone × Endpoint n (StreamMedium σ) (Watched η))
  | start s => do
    let (accepted, link) ← s.run e.link
    pure (if accepted then [.started (s.frame e.link)] else [], { e with link })
  | write data => do
    e.link.requireIdle
    pure ([], { e with link := e.link.writePayload data })
  | receive => do
    let (_, e') ← e.pollReceive
    pure (e'.handler.since e.handler, e')
  | send => do
    let (_, e') ← e.pollSend
    pure (e'.handler.since e.handler, e')
  | both rounds => do
    let (_, e') ← e.poll rounds
    pure (e'.handler.since e.handler, e')
  | abandon => do
    let e' ← e.abandonSend
    pure (if e.isSending then [.abandoned] else [], e')

/-- Do one thing after the other. -/
def runAll (e : Endpoint n (StreamMedium σ) (Watched η)) :
    List Deed → Run (List Milestone × Endpoint n (StreamMedium σ) (Watched η))
  | [] => pure ([], e)
  | deed :: deeds => do
    let (first, e) ← deed.run e
    let (rest, e) ← runAll e deeds
    pure (first ++ rest, e)

/-- Attach an endpoint to a stream under watch, and do things with it. -/
def watch (n : Nat) (source : σ) (handler : η) (deeds : List Deed) :
    Run (List Milestone × Endpoint n (StreamMedium (Tap σ)) (Watched η)) := do
  let e ← Endpoint.attach n { stream := ⟨source, []⟩ } ⟨handler, []⟩
  runAll e deeds

variable [UsesLink η] {e e' : Endpoint n (StreamMedium (Tap σ)) (Watched η)} {milestones more : List Milestone}
  {past : List Sending} {now : List Transfer}

/-- Whatever is done, the chronicle goes on, and the handler was called for the milestones that are its own. -/
theorem run_chronicle {deed : Deed} (hn : Header.size < n) (h : e.link.Chronicle milestones past now)
    (hrun : (deed.run e).result = .ok (more, e')) :
    ∃ new past now, e'.handler.log = e.handler.log ++ new ∧ more.count .sent = new.countP (·.message.isNone) ∧
      e'.link.Chronicle (milestones ++ more) past now := by
  have hsince : e'.Continues e.handler.log milestones → more = e'.handler.since e.handler →
      ∃ new past now, e'.handler.log = e.handler.log ++ new ∧ more.count .sent = new.countP (·.message.isNone) ∧
        e'.link.Chronicle (milestones ++ more) past now := by
    intro hcontinues hmore
    obtain ⟨new, past, now, hlog, hnew, hlink⟩ := hcontinues.since
    rw [← hmore] at hnew hlink
    exact ⟨new, past, now, hlog, hnew ▸ Occasion.count_sent new, hlink⟩
  have hcontinues : e.Continues e.handler.log milestones :=
    ⟨[], past, now, (List.append_nil _).symm, (List.append_nil milestones).symm ▸ h⟩
  cases deed with
  | start s =>
    obtain ⟨⟨accepted, link⟩, hstart, hrest⟩ := Run.result_bind_eq_ok.mp hrun
    cases hrest
    obtain ⟨rfl, hstarts⟩ | ⟨rfl, hdeclines⟩ := s.run_cases hn hstart
    · exact ⟨[], past, now, (List.append_nil _).symm, by simp, h.starts hstarts⟩
    · refine ⟨[], past, now, (List.append_nil _).symm, rfl, ?_⟩
      rw [if_neg Bool.false_ne_true, List.append_nil]
      exact h.idle (Link.armed?_idle hdeclines.idle) (Link.armed?_idle hdeclines.left) (by rw [hdeclines.medium])
  | write data =>
    obtain ⟨hidle, hrest⟩ := Link.idle_of_requireIdle hrun
    cases hrest
    refine ⟨[], past, now, (List.append_nil _).symm, rfl, ?_⟩
    rw [List.append_nil]
    exact h.idle (Link.armed?_idle hidle) (Link.armed?_idle hidle) rfl
  | receive =>
    obtain ⟨⟨result, e₁⟩, hpoll, hrest⟩ := Run.result_bind_eq_ok.mp hrun
    cases hrest
    exact hsince (hcontinues.pollReceive hn hpoll) rfl
  | send =>
    obtain ⟨⟨result, e₁⟩, hpoll, hrest⟩ := Run.result_bind_eq_ok.mp hrun
    cases hrest
    exact hsince (hcontinues.pollSend hn hpoll) rfl
  | both rounds =>
    obtain ⟨⟨result, e₁⟩, hpoll, hrest⟩ := Run.result_bind_eq_ok.mp hrun
    cases hrest
    refine hsince (Endpoint.poll_keeps (fun _ e₁ => e₁.Continues e.handler.log milestones) ?_ ?_ [] hcontinues hpoll)
      rfl
    · intro _ _ _ _ hc hsend
      exact hc.pollSend hn hsend
    · intro _ _ _ _ hc hreceive
      exact hc.pollReceive hn hreceive
  | abandon =>
    obtain ⟨e₁, habandon, hrest⟩ := Run.result_bind_eq_ok.mp hrun
    cases habandon
    have hlog : e.abandonSend.value.handler.log = e.handler.log ++ [] := (List.append_nil _).symm
    cases hsending : e.link.sending with
    | none =>
      have hquiet : e.isSending = false := by rw [Endpoint.isSending, Link.isBusy, hsending]; rfl
      have hsame : e.abandonSend.value.link = e.link := Link.abandon_idle hsending
      have hkept : e.abandonSend.value.link.Chronicle (milestones ++ []) past now := by
        rw [hsame, List.append_nil]
        exact h
      rw [hquiet, if_neg Bool.false_ne_true] at hrest
      cases hrest
      exact ⟨[], past, now, hlog, rfl, hkept⟩
    | some size =>
      have hbusy : e.isSending = true := by rw [Endpoint.isSending, Link.isBusy, hsending]; rfl
      have harmed : e.link.armed? = some (e.link.buffer.slice 0 size) := by rw [Link.armed?, hsending]; rfl
      obtain ⟨hidle, hstream⟩ := Link.abandon_busy hsending
      rw [hbusy, if_pos rfl] at hrest
      cases hrest
      exact ⟨[], _, _, hlog, by simp, h.abandons harmed (Link.armed?_idle hidle) hstream⟩

theorem runAll_chronicle {deeds : List Deed} (hn : Header.size < n) (h : e.link.Chronicle milestones past now)
    (hrun : (runAll e deeds).result = .ok (more, e')) :
    ∃ new past now, e'.handler.log = e.handler.log ++ new ∧ more.count .sent = new.countP (·.message.isNone) ∧
      e'.link.Chronicle (milestones ++ more) past now := by
  induction deeds generalizing e milestones past now more with
  | nil =>
    cases hrun
    exact ⟨[], past, now, (List.append_nil _).symm, rfl, (List.append_nil milestones).symm ▸ h⟩
  | cons deed deeds ih =>
    obtain ⟨⟨first, e₁⟩, hfirst, hrest⟩ := Run.result_bind_eq_ok.mp hrun
    obtain ⟨⟨rest, e₂⟩, hall, hlast⟩ := Run.result_bind_eq_ok.mp hrest
    cases hlast
    obtain ⟨new₁, past₁, now₁, hlog₁, hcount₁, h₁⟩ := run_chronicle hn h hfirst
    obtain ⟨new₂, past₂, now₂, hlog₂, hcount₂, h₂⟩ := ih h₁ hall
    refine ⟨new₁ ++ new₂, past₂, now₂, ?_, ?_, ?_⟩
    · rw [hlog₂, hlog₁, List.append_assoc]
    · rw [List.count_append, List.countP_append, hcount₁, hcount₂]
    · rw [← List.append_assoc]
      exact h₂

/-- The outgoing wire is made of frames. However an endpoint over a stream is used, the milestones are those of
sendings, one after the other, followed by the start of the frame on the link if there is one; and what passed through
the stream is what passed for these. The bytes of a frame that was sent were given once and as a whole, and flushed
before the handler was told. Of a frame that was given up there is a part from the front, and of the frame on the link
as much as the medium has counted. -/
theorem wire_of_frames (source : σ) (handler : η) (deeds : List Deed)
    (hrun : (watch n source handler deeds).result = .ok (milestones, e)) :
    ∃ past now, e.link.Chronicle milestones past now ∧
      e.link.medium.stream.given =
        (past.flatMap fun s => outflow s.transfers) ++ (e.link.armed?.getD []).take e.link.medium.sent ∧
      e.handler.log.countP (·.message.isNone) = past.countP (·.complete) := by
  obtain ⟨e₀, hattach, hdeeds⟩ := Run.result_bind_eq_ok.mp hrun
  obtain ⟨hn, rfl⟩ := Endpoint.attach_ok hattach
  obtain ⟨new, past, now, hlog, hcount, hlink⟩ := runAll_chronicle hn (Link.Chronicle.fresh source) hdeeds
  refine ⟨past, now, hlink, hlink.wire, ?_⟩
  rw [hlog, List.nil_append, ← hcount]
  exact hlink.count_sent

/-- A stream that takes frames in pieces, refuses for a moment, accepts nothing once, fails, and lets two flushes
wait. -/
def brokenLine : Bench.Script where
  reads := [.bytes [7, 1, 0, 0, 0]]
  writes := [.accept (some 2), .fail .wouldBlock, .accept none, .accept (some 3), .accept (some 0), .accept (some 1),
    .fail .brokenPipe, .accept none, .accept (some 4), .fail .wouldBlock]
  flushes := [some .timedOut, none, some .interrupted]

/-- Two frames of the owner, one that the handler queued and that is given up, and an echo of a message. -/
def fourFrames : List Deed :=
  [.write [8, 9, 9], .start (.commit 1 2 3 2), .send, .send, .send, .send, .send, .abandon, .receive, .both 3, .both 3,
    .start (.bytes (List.replicate 17 0)), .start (.message ⟨5, 5, 5, [6]⟩), .send]

theorem wire_of_frames_brokenLine :
    ∃ milestones e, (watch 16 brokenLine (Bench.Listener.recorder ⟨true, [[4, 4, 4, 0, 0]]⟩) fourFrames).result =
        .ok (milestones, e) ∧
      milestones = [.started [1, 2, 3, 0, 2, 8, 9], .sent, .started [4, 4, 4, 0, 0], .abandoned,
        .started [7, 129, 0, 0, 0], .sent, .started [5, 5, 5, 0, 1, 6]] ∧
      e.link.armed? = some [5, 5, 5, 0, 1, 6] ∧
      ∃ past now, e.link.Chronicle milestones past now ∧
        [1, 2, 3, 0, 2, 8, 9, 4, 4, 4, 0, 7, 129, 0, 0, 0, 5, 5, 5, 0] =
          (past.flatMap fun s => outflow s.transfers) ++ [5, 5, 5, 0] ∧
        2 = past.countP (·.complete) := by
  have hrun : (watch 16 brokenLine (Bench.Listener.recorder ⟨true, [[4, 4, 4, 0, 0]]⟩) fourFrames).result.toOption.map
      (fun r => (r.1, r.2.link.armed?, r.2.link.medium.sent, r.2.link.medium.stream.given,
        r.2.handler.log.countP (·.message.isNone))) =
      some ([.started [1, 2, 3, 0, 2, 8, 9], .sent, .started [4, 4, 4, 0, 0], .abandoned, .started [7, 129, 0, 0, 0],
        .sent, .started [5, 5, 5, 0, 1, 6]], some [5, 5, 5, 0, 1, 6], 4,
        [1, 2, 3, 0, 2, 8, 9, 4, 4, 4, 0, 7, 129, 0, 0, 0, 5, 5, 5, 0], 2) := by cbv
  obtain ⟨⟨milestones, e⟩, hok, hvalue⟩ := Option.map_eq_some_iff.mp hrun
  simp only [Prod.mk.injEq] at hvalue
  obtain ⟨hmilestones, harmed, hsent, hgiven, hcount⟩ := hvalue
  have hresult := Outcomes.toOption_eq_some.mp hok
  obtain ⟨past, now, hlink, hwire, hcomplete⟩ := wire_of_frames _ _ _ hresult
  rw [hgiven, harmed, hsent] at hwire
  rw [hcount] at hcomplete
  exact ⟨milestones, e, hresult, hmilestones, harmed, past, now, hlink, hwire, hcomplete⟩

end Deed

end BusBridge

import BusBridge.Proofs.Emission
import BusBridge.Proofs.Reception
import BusBridge.Proofs.Streams
/-!
# Polls of an endpoint over a stream

What one poll does to an endpoint whose medium is a stream, in each direction. Receiving takes some
bytes from the stream into the armed block; either the block is still open, and that is all that
happened, or it is complete and was reported (`Endpoint.Receives`). Sending hands some bytes of the
armed frame to the stream; either the frame is still on its way, or it was reported as sent
(`Endpoint.pollSend_cases`).
-/

namespace BusBridge

namespace Endpoint

variable {n : Nat} {σ η : Type}

/-- The endpoint after bytes were read from its stream into the armed block. -/
def absorb (e : Endpoint n (StreamMedium σ) η) (new : Bytes) (stream : σ) : Endpoint n (StreamMedium σ) η :=
  { e.store e.link.medium.received new with
    link.medium := { e.link.medium with stream, received := e.link.medium.received + new.length } }

@[simp] theorem absorb_capacity (e : Endpoint n (StreamMedium σ) η) (new : Bytes) (stream : σ) :
    (e.absorb new stream).capacity = e.capacity := rfl

theorem Holds.absorbs {e : Endpoint n (StreamMedium σ) η} {bytes new : Bytes} {stream : σ}
    (h : e.Holds e.link.medium.received bytes) (hn : Header.size < n)
    (hfit : e.link.medium.received + new.length ≤ e.armedSize) :
    e.Arrives (e.absorb new stream) e.link.medium.received new :=
  ⟨rfl, (arrives_store (h.room hn) hfit).front⟩

/-- The endpoint after bytes of the armed frame were written to its stream. -/
def release (e : Endpoint n (StreamMedium σ) η) (new : Bytes) (stream : σ) : Endpoint n (StreamMedium σ) η :=
  { e with link.medium := { e.link.medium with stream, sent := e.link.medium.sent + new.length } }

/-- How a poll reports a complete block. -/
def reportOf : Except Oversized Unit → Except PollError Bool
  | .ok _ => .ok true
  | .error o => .error (.oversized o)

variable [Stream σ] [Handler η]

/-- Receiving takes what the stream gives into the armed block, and reports the block if that completes it. -/
theorem pollReceive_absorb {e : Endpoint n (StreamMedium σ) η} {halt : Halt} {new : Bytes} {stream : σ}
    (hroom : e.reception.offset + e.armedSize ≤ n) (hfit : e.link.medium.received + new.length ≤ e.armedSize)
    (hgather : Stream.gather (e.armedSize - e.link.medium.received) e.link.medium.stream [] =
      (halt, new.reverse, stream)) :
    e.pollReceive.result =
      match halt.toPoll .unexpectedEof with
      | .error kind => .ok (.error (.medium kind), e.absorb new stream)
      | .ok false => .ok (.ok false, e.absorb new stream)
      | .ok true => (e.absorb new stream).blockReceived.result >>= fun r => .ok (reportOf r.1, r.2) := by
  have hinbox := e.inbox.length_bytes
  have harmed := length_armed hroom
  -- the block is cut out of the buffer, polled, and written back as a whole
  have hstore : e.store 0 (Bytes.overlay e.armed e.link.medium.received new) = e.store e.link.medium.received new := by
    have hwhole : (Bytes.overlay e.armed e.link.medium.received new).take (e.armedSize - 0) =
        Bytes.overlay e.armed e.link.medium.received new :=
      List.take_of_length_le (by rw [Bytes.length_overlay, harmed]; omega)
    have hnew : new.take (e.armedSize - e.link.medium.received) = new := List.take_of_length_le (by omega)
    have hplace : e.inbox.overlay (e.reception.offset + 0) (Bytes.overlay e.armed e.link.medium.received new) =
        e.inbox.overlay (e.reception.offset + e.link.medium.received) new :=
      Buffer.ext (Bytes.overlay_slice (by omega) (by omega))
    simp only [store, hwhole, hnew, hplace]
  have hpoll : Medium.pollReceive e.link.medium e.armed = (halt.toPoll .unexpectedEof,
      Bytes.overlay e.armed e.link.medium.received new,
      { e.link.medium with stream, received := e.link.medium.received + new.length }) := by
    simp only [Medium.pollReceive, StreamMedium.pollReceive, harmed, hgather, List.reverse_reverse, List.length_reverse]
  simp only [pollReceive, hpoll, hstore]
  rcases halt.toPoll .unexpectedEof with kind | done
  · rfl
  · cases done with
    | false => rfl
    | true =>
      simp only [Run.result_bind]
      refine congrArg _ (funext fun r => ?_)
      obtain ⟨report, e'⟩ := r
      cases report <;> rfl

/-- Receiving keeps what is kept by reading, and either leaves the block open or completes and reports it. -/
theorem pollReceive_cases {P : σ → Bytes → Prop} (law : Stream.ReadLaw P) {e : Endpoint n (StreamMedium σ) η}
    {acc : Bytes} (hP : P e.link.medium.stream acc) (hroom : e.reception.offset + e.armedSize ≤ n)
    (hlt : e.link.medium.received < e.armedSize) :
    ∃ new stream, P stream (acc ++ new) ∧
      ((e.link.medium.received + new.length < e.armedSize ∧
          ∃ result, (result = .ok false ∨ ∃ kind, result = .error (.medium kind)) ∧
            e.pollReceive.result = .ok (result, e.absorb new stream)) ∨
        (e.link.medium.received + new.length = e.armedSize ∧
          e.pollReceive.result = (e.absorb new stream).blockReceived.result >>= fun r => .ok (reportOf r.1, r.2))) := by
  obtain ⟨new, hgot, hP', hle, hcomplete⟩ :=
    Stream.gather_spec law (e.armedSize - e.link.medium.received) e.link.medium.stream [] acc hP
  rcases hgather : Stream.gather (e.armedSize - e.link.medium.received) e.link.medium.stream [] with ⟨halt, got, stream⟩
  rw [hgather] at hgot hP' hcomplete
  have hgot : got = new.reverse := by simpa using hgot
  subst hgot
  have hpoll := pollReceive_absorb hroom (by omega) hgather
  refine ⟨new, stream, hP', ?_⟩
  by_cases hfull : new.length = e.armedSize - e.link.medium.received
  · rw [StreamMedium.toPoll_eq_true.mpr (hcomplete.mpr hfull)] at hpoll
    exact .inr ⟨by omega, hpoll⟩
  · refine .inl ⟨by omega, ?_⟩
    have hopen : halt.toPoll .unexpectedEof ≠ .ok true :=
      fun hr => hfull (hcomplete.mp (StreamMedium.toPoll_eq_true.mp hr))
    rcases htoPoll : halt.toPoll .unexpectedEof with kind | done
    · rw [htoPoll] at hpoll
      exact ⟨_, .inr ⟨kind, rfl⟩, hpoll⟩
    · rw [htoPoll] at hpoll hopen
      cases done with
      | true => exact absurd rfl hopen
      | false => exact ⟨_, .inl rfl, hpoll⟩

/-- What a poll of the reception can do, where `bytes` had arrived of the frame and the poll takes `new`
from the stream. -/
inductive Receives (e : Endpoint n (StreamMedium σ) η) (bytes new : Bytes) (stream : σ) :
    Except PollError Bool → Endpoint n (StreamMedium σ) η → Prop where
  /-- the armed block is not complete -/
  | wait {result : Except PollError Bool} : (result = .ok false ∨ ∃ kind, result = .error (.medium kind)) →
      Framing.declared? (bytes ++ new) = Framing.declared? bytes →
      (e.absorb new stream).Holds (e.absorb new stream).link.medium.received (bytes ++ new) →
      Receives e bytes new stream result (e.absorb new stream)
  /-- the armed block is complete and was reported -/
  | report {result : Except Oversized Unit} {e' : Endpoint n (StreamMedium σ) η} :
      (e.absorb new stream).Reports bytes (bytes ++ new) result e' → Receives e bytes new stream (reportOf result) e'

/-- Every poll of the reception does one of these. -/
theorem receives_of_pollReceive {P : σ → Bytes → Prop} (law : Stream.ReadLaw P) {e e' : Endpoint n (StreamMedium σ) η}
    {bytes acc : Bytes} {result : Except PollError Bool} (hn : Header.size < n) (hP : P e.link.medium.stream acc)
    (h : e.Holds e.link.medium.received bytes) (hrun : e.pollReceive.result = .ok (result, e')) :
    ∃ new stream, P stream (acc ++ new) ∧ e.Receives bytes new stream result e' := by
  obtain ⟨new, stream, hP', ⟨hlt, result', hresult, hpoll⟩ | ⟨hfull, hpoll⟩⟩ :=
    pollReceive_cases law hP (h.room hn) h.received_lt
  · cases hpoll.symm.trans hrun
    exact ⟨new, stream, hP', .wait hresult (h.declared?_store hlt) (h.arrive (h.absorbs hn (Nat.le_of_lt hlt)) hlt)⟩
  · rw [hpoll, Outcomes.bind_eq_ok] at hrun
    obtain ⟨⟨report, e''⟩, hreport, hrest⟩ := hrun
    cases hrest
    exact ⟨new, stream, hP', .report (reports_of_filled h hn (h.absorbs hn (Nat.le_of_eq hfull)) hfull hreport)⟩

/-- With nothing of a frame there and nothing new, the endpoint goes on waiting. -/
theorem Receives.starved {e e' : Endpoint n (StreamMedium σ) η} {stream : σ} {result : Except PollError Bool}
    (h : e.Receives [] [] stream result e') :
    e' = e.absorb [] stream ∧ e'.Holds e'.link.medium.received [] := by
  cases h with
  | wait _ _ hholds => exact ⟨rfl, hholds⟩
  | report hreport =>
    cases hreport with
    | deliver hframe => exact absurd hframe.symm (Framing.frame_ne_nil _)
    | pass hframe => exact absurd hframe.symm (Framing.frame_ne_nil _)
    | refuse _ hdeclared => cases hdeclared
    | proceed hdeclared => cases hdeclared

/-- Sending hands bytes of the armed frame to the stream, and reports the frame if that completes it. -/
theorem pollSend_cases {P : σ → Bytes → Prop} (law : Stream.WriteLaw P) {e : Endpoint n (StreamMedium σ) η}
    {frame acc : Bytes} (hP : P e.link.medium.stream acc) (hframe : e.link.armed? = some frame) :
    ∃ new left stream, P stream (acc ++ new) ∧ new ++ left = frame.drop e.link.medium.sent ∧
      ((∃ result, (result = .ok false ∨ ∃ kind, result = .error (.medium kind)) ∧
            e.pollSend.result = .ok (result, e.release new stream) ∧
            ((∀ s : σ, (Stream.flush s).value.1 = .ok ()) → left ≠ [])) ∨
        (left = [] ∧
          e.pollSend.result = (e.release new stream).blockSent.result >>= fun e' => .ok (.ok true, e'))) := by
  obtain ⟨result, new, left, stream, hpoll, hP', hrest, hsent, hflush⟩ :=
    StreamMedium.pollSend_spec law e.link.medium frame acc hP
  refine ⟨new, left, stream, hP', hrest, ?_⟩
  cases result with
  | error kind =>
    refine .inl ⟨.error (.medium kind), .inr ⟨kind, rfl⟩, ?_, fun hf hleft => by cases hflush hf hleft⟩
    simp only [pollSend, hframe, Run.result_bind, Run.result_lift, Outcomes.ok_bind, hpoll, Run.result_pure]
    rfl
  | ok done =>
    cases done with
    | false =>
      refine .inl ⟨.ok false, .inl rfl, ?_, fun hf hleft => by cases hflush hf hleft⟩
      simp only [pollSend, hframe, Run.result_bind, Run.result_lift, Outcomes.ok_bind, hpoll, Run.result_pure]
      rfl
    | true =>
      refine .inr ⟨hsent rfl, ?_⟩
      simp only [pollSend, hframe, Run.result_bind, Run.result_lift, Outcomes.ok_bind, hpoll, Run.result_pure]
      rfl

/-- What a poll of the emission can do, where `new` is handed to the stream. -/
inductive Sends (e : Endpoint n (StreamMedium σ) η) (new : Bytes) (stream : σ) :
    Except PollError Bool → Endpoint n (StreamMedium σ) η → Prop where
  /-- nothing is to be sent -/
  | idle : e.link.armed? = none → new = [] → stream = e.link.medium.stream → Sends e new stream (.ok false) e
  /-- the frame is still on its way -/
  | wait {frame left : Bytes} {result : Except PollError Bool} : e.link.armed? = some frame →
      new ++ left = frame.drop e.link.medium.sent → (result = .ok false ∨ ∃ kind, result = .error (.medium kind)) →
      ((∀ s : σ, (Stream.flush s).value.1 = .ok ()) → left ≠ []) → Sends e new stream result (e.release new stream)
  /-- the frame was sent and reported -/
  | report {frame : Bytes} {r : η × Link n (StreamMedium σ)} : e.link.armed? = some frame →
      new = frame.drop e.link.medium.sent →
      (Handler.onSent e.handler { (e.release new stream).link with sending := none }).result = .ok r →
      Sends e new stream (.ok true) { e.release new stream with handler := r.1, link := r.2 }

/-- The report of a sent frame is what its handler makes of it. -/
theorem blockSent_result {δ φ : Type} [Medium δ φ] {e : Endpoint n δ η} {frame : Bytes}
    (h : e.link.armed? = some frame) :
    e.blockSent.result = (Handler.onSent e.handler { e.link with sending := none }).result >>= fun r =>
      .ok { e with handler := r.1, link := r.2 } := by
  obtain ⟨size, hsize, _⟩ := Option.map_eq_some_iff.mp h
  simp only [blockSent, hsize, Run.result_bind, Run.result_lift, Outcomes.ok_bind, Run.result_pure]

/-- Every poll of the emission does one of these. -/
theorem sends_of_pollSend {P : σ → Bytes → Prop} (law : Stream.WriteLaw P) {e e' : Endpoint n (StreamMedium σ) η}
    {acc : Bytes} {result : Except PollError Bool} (hP : P e.link.medium.stream acc)
    (hrun : e.pollSend.result = .ok (result, e')) :
    ∃ new stream, P stream (acc ++ new) ∧ e.Sends new stream result e' := by
  cases hframe : e.link.armed? with
  | none =>
    simp only [pollSend, hframe, Run.result_pure] at hrun
    cases hrun
    exact ⟨[], e.link.medium.stream, by rw [List.append_nil]; exact hP, .idle hframe rfl rfl⟩
  | some frame =>
    obtain ⟨new, left, stream, hP', hrest, ⟨result', hresult, hpoll, hleft⟩ | ⟨rfl, hpoll⟩⟩ :=
      pollSend_cases law hP hframe
    · cases hpoll.symm.trans hrun
      exact ⟨new, stream, hP', .wait hframe hrest hresult hleft⟩
    · have harmed : (e.release new stream).link.armed? = some frame := hframe
      rw [hpoll, blockSent_result harmed, Outcomes.bind_eq_ok] at hrun
      obtain ⟨e'', hsent, hrest'⟩ := hrun
      obtain ⟨r, hr, hrest''⟩ := Outcomes.bind_eq_ok.mp hsent
      cases hrest''
      cases hrest'
      rw [List.append_nil] at hrest
      exact ⟨new, stream, hP', .report hframe hrest hr⟩

/-! ## Polls that return -/

section Returning

variable {δ φ : Type} [Medium δ φ]

theorem blockReceived_returns (hreturns : HandlerReturns η) (hn : Header.size < n) (e : Endpoint n δ η) :
    ∃ r, e.blockReceived.result = .ok r := by
  rw [blockReceived_result]
  cases e.verdict with
  | deliver =>
    obtain ⟨r, hr⟩ := (hreturns hn e.handler e.link).1 _
    rw [deliver_result, hr]
    exact ⟨_, rfl⟩
  | refuse length => exact ⟨_, rfl⟩
  | proceed reception => exact ⟨_, rfl⟩

theorem blockSent_returns (hreturns : HandlerReturns η) (hn : Header.size < n) (e : Endpoint n δ η) :
    ∃ e', e.blockSent.result = .ok e' := by
  cases hframe : e.link.armed? with
  | none =>
    rw [blockSent, Option.map_eq_none_iff.mp hframe]
    exact ⟨e, rfl⟩
  | some frame =>
    obtain ⟨r, hr⟩ := (hreturns hn e.handler { e.link with sending := none }).2
    rw [blockSent_result hframe, hr]
    exact ⟨_, rfl⟩

theorem pollReceive_returns (hreturns : HandlerReturns η) (hn : Header.size < n) (e : Endpoint n δ η) :
    ∃ r, e.pollReceive.result = .ok r := by
  unfold pollReceive
  rcases Medium.pollReceive e.link.medium e.armed with ⟨result, block, medium⟩
  rcases result with kind | done
  · exact ⟨_, rfl⟩
  · cases done with
    | false => exact ⟨_, rfl⟩
    | true =>
      obtain ⟨⟨report, e'⟩, hreport⟩ := blockReceived_returns hreturns hn { e.store 0 block with link.medium := medium }
      simp only [Run.result_bind, hreport, Outcomes.ok_bind]
      cases report <;> exact ⟨_, rfl⟩

theorem pollSend_returns (hreturns : HandlerReturns η) (hn : Header.size < n) (e : Endpoint n δ η) :
    ∃ r, e.pollSend.result = .ok r := by
  unfold pollSend
  cases hframe : e.link.armed? with
  | none => exact ⟨_, rfl⟩
  | some frame =>
    simp only [Run.result_bind, Run.result_lift, Outcomes.ok_bind]
    rcases (Medium.pollSend e.link.medium frame).value with ⟨kind | done, medium⟩
    · exact ⟨_, rfl⟩
    · cases done with
      | false => exact ⟨_, rfl⟩
      | true =>
        obtain ⟨r, hr⟩ := (hreturns hn e.handler { e.link with medium, sending := none }).2
        have harmed : ({ e with link.medium := medium } : Endpoint n δ η).link.armed? = some frame := hframe
        simp only [Run.result_bind, blockSent_result harmed, hr, Outcomes.ok_bind]
        exact ⟨_, rfl⟩

theorem pollOnce_returns (hreturns : HandlerReturns η) (hn : Header.size < n) (e : Endpoint n δ η) :
    ∃ r, e.pollOnce.result = .ok r := by
  obtain ⟨⟨sent, e₁⟩, hsent⟩ := pollSend_returns hreturns hn e
  obtain ⟨⟨received, e₂⟩, hreceived⟩ := pollReceive_returns hreturns hn e₁
  simp only [pollOnce, Run.result_bind, hsent, Outcomes.ok_bind]
  cases sent with
  | error error => exact ⟨_, rfl⟩
  | ok sent =>
    simp only [Run.result_bind, hreceived, Outcomes.ok_bind]
    cases received <;> exact ⟨_, rfl⟩

/-- A poll in both directions returns, or goes on until its rounds are used up. -/
theorem poll_returns (hreturns : HandlerReturns η) (hn : Header.size < n) (rounds : Nat) (e : Endpoint n δ η) :
    (∃ r, (e.poll rounds).result = .ok r) ∨ (e.poll rounds).result = .error .exhausted := by
  refine Run.loop_returns (fun s => .inl ?_) rounds (false, e)
  obtain ⟨⟨result, e'⟩, hround⟩ := pollOnce_returns hreturns hn s.2
  simp only [pollTurn, Run.result_bind, hround, Outcomes.ok_bind]
  rcases result with error | done
  · exact ⟨_, rfl⟩
  · cases done <;> exact ⟨_, rfl⟩

end Returning

/-! ## What polls keep -/

/-- The oversized frame that a poll reports. -/
def reported {φ : Type} : Except (PollError φ) Bool → List Oversized
  | .error (.oversized o) => [o]
  | _ => []

section Keeping

variable {δ φ : Type} [Medium δ φ] (Inv : List Oversized → Endpoint n δ η → Prop)
  (send : ∀ reports e result e', Inv reports e → e.pollSend.result = .ok (result, e') →
    Inv (reports ++ reported result) e')
  (receive : ∀ reports e result e', Inv reports e → e.pollReceive.result = .ok (result, e') →
    Inv (reports ++ reported result) e')

include send receive

theorem pollOnce_keeps {e e' : Endpoint n δ η} {reports : List Oversized}
    {result : Except (PollError φ) Bool} (h : Inv reports e) (hrun : e.pollOnce.result = .ok (result, e')) :
    Inv (reports ++ reported result) e' := by
  obtain ⟨⟨sent, e₁⟩, hsent, hrest⟩ := Run.result_bind_eq_ok.mp hrun
  have h₁ := send _ _ _ _ h hsent
  cases sent with
  | error error =>
    cases hrest
    exact h₁
  | ok sent =>
    obtain ⟨⟨received, e₂⟩, hreceived, hlast⟩ := Run.result_bind_eq_ok.mp hrest
    have h₂ := receive _ _ _ _ h₁ hreceived
    have hquiet : reports ++ reported (.ok sent : Except (PollError φ) Bool) = reports := List.append_nil reports
    rw [hquiet] at h₂
    cases received <;> cases hlast <;> exact h₂

theorem pollTurn_again_keeps (reports : List Oversized) {s s' : Bool × Endpoint n δ η} (h : Inv reports s.2)
    (hturn : (pollTurn s).result = .ok (.again s')) : Inv reports s'.2 := by
  obtain ⟨⟨round, e₁⟩, hround, hrest⟩ := Run.result_bind_eq_ok.mp hturn
  have h₁ := pollOnce_keeps Inv send receive h hround
  rcases round with error | done
  · cases hrest
  · cases done with
    | false => cases hrest
    | true =>
      cases hrest
      exact List.append_nil reports ▸ h₁

theorem pollTurn_done_keeps (reports : List Oversized) {s : Bool × Endpoint n δ η}
    {r : Except (PollError φ) Bool × Endpoint n δ η} (h : Inv reports s.2)
    (hturn : (pollTurn s).result = .ok (.done r)) :
    Inv (reports ++ reported r.1) r.2 := by
  obtain ⟨⟨round, e₁⟩, hround, hrest⟩ := Run.result_bind_eq_ok.mp hturn
  have h₁ := pollOnce_keeps Inv send receive h hround
  rcases round with error | done
  · cases hrest
    exact h₁
  · cases done with
    | false =>
      cases hrest
      exact h₁
    | true => cases hrest

/-- What each direction keeps is kept by a poll. A round that is not the last one reports nothing, so the
last round speaks for all of them. -/
theorem poll_keeps (reports : List Oversized) {e e' : Endpoint n δ η} {rounds : Nat}
    {result : Except (PollError φ) Bool} (h : Inv reports e) (hrun : (e.poll rounds).result = .ok (result, e')) :
    Inv (reports ++ reported result) e' :=
  Run.loop_induction (fun s => Inv reports s.2) (fun r => Inv (reports ++ reported r.1) r.2)
    (fun _ _ => pollTurn_again_keeps Inv send receive reports) (fun _ _ => pollTurn_done_keeps Inv send receive reports)
      h hrun

end Keeping

end Endpoint

/-- A way to poll an endpoint. -/
inductive PollCall where
  | receive
  | send
  | both (rounds : Nat)

namespace PollCall

variable {n : Nat} {σ η : Type} [Stream σ] [Handler η]

/-- Poll an endpoint in the given way. -/
def run (e : Endpoint n (StreamMedium σ) η) : PollCall → Run (Except PollError Bool × Endpoint n (StreamMedium σ) η)
  | receive => e.pollReceive
  | send => e.pollSend
  | both rounds => e.poll rounds

theorem run_keeps (Inv : List Oversized → Endpoint n (StreamMedium σ) η → Prop)
    (send : ∀ reports e result e', Inv reports e → e.pollSend.result = .ok (result, e') →
      Inv (reports ++ Endpoint.reported result) e')
    (receive : ∀ reports e result e', Inv reports e → e.pollReceive.result = .ok (result, e') →
      Inv (reports ++ Endpoint.reported result) e')
    (reports : List Oversized) {e e' : Endpoint n (StreamMedium σ) η} {call : PollCall}
    {result : Except PollError Bool} (h : Inv reports e) (hrun : (call.run e).result = .ok (result, e')) :
    Inv (reports ++ Endpoint.reported result) e' := by
  cases call with
  | receive => exact receive _ _ _ _ h hrun
  | send => exact send _ _ _ _ h hrun
  | both rounds => exact Endpoint.poll_keeps Inv send receive reports h hrun

theorem run_returns (call : PollCall) (hreturns : HandlerReturns η) (hn : Header.size < n)
    (e : Endpoint n (StreamMedium σ) η) :
    (∃ r, (call.run e).result = .ok r) ∨ (call.run e).result = .error .exhausted ∧ ∃ rounds, call = both rounds := by
  cases call with
  | receive => exact .inl (Endpoint.pollReceive_returns hreturns hn e)
  | send => exact .inl (Endpoint.pollSend_returns hreturns hn e)
  | both rounds => exact (Endpoint.poll_returns hreturns hn rounds e).imp_right fun h => ⟨h, rounds, rfl⟩

end PollCall

end BusBridge

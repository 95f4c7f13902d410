import Mathlib
import BusBridge.Bench.Script
import BusBridge.Proofs.Polling
/-!
# Reception follows the parse

However a stream hands its bytes over, in pieces of any size, with pauses and failures between them,
and however an endpoint over it is polled, the messages that reach the handler are the frames of the
bytes read so far that fit the buffer, and the lengths reported as oversized are those of the frames
that do not (`Endpoint.polls_deliver_parse`).

The statement is about `Framing.parse`, which knows nothing of blocks and polls. A handler is watched
through `Recorded`, which passes everything on and keeps the messages; a stream is watched through
`Tap`. The argument is one invariant, `Endpoint.Follows`, kept by each poll whatever it does.

**What it does not establish.** Nothing is said of the bytes that are sent, and nothing of a handler
that reaches into the reception of its own endpoint; `SendsOnly` is the assumption that it does not.
-/

namespace BusBridge

/-! ## A handler under watch -/

/-- A handler with the messages it was given, the first one first. -/
structure Recorded (η : Type) where
  handler : η
  messages : List Message := []

instance {η : Type} [Handler η] : Handler (Recorded η) where
  onMessage r m link := do
    let (handler, link) ← Handler.onMessage r.handler m link
    pure (⟨handler, r.messages ++ [m]⟩, link)
  onSent r link := do
    let (handler, link) ← Handler.onSent r.handler link
    pure (⟨handler, r.messages⟩, link)

namespace Recorded

variable {n : Nat} {δ η φ : Type} [Medium δ φ] [Handler η]

theorem onMessage_ok {r r' : Recorded η} {m : Message} {l l' : Link n δ}
    (h : (Handler.onMessage r m l).result = .ok (r', l')) :
    (Handler.onMessage r.handler m l).result = .ok (r'.handler, l') ∧ r'.messages = r.messages ++ [m] := by
  obtain ⟨⟨handler, link⟩, hinner, hrest⟩ := Run.result_bind_eq_ok.mp h
  cases hrest
  exact ⟨hinner, rfl⟩

theorem onSent_ok {r r' : Recorded η} {l l' : Link n δ} (h : (Handler.onSent r l).result = .ok (r', l')) :
    (Handler.onSent r.handler l).result = .ok (r'.handler, l') ∧ r'.messages = r.messages := by
  obtain ⟨⟨handler, link⟩, hinner, hrest⟩ := Run.result_bind_eq_ok.mp h
  cases hrest
  exact ⟨hinner, rfl⟩

instance [SendsOnly η] : SendsOnly (Recorded η) where
  onMessage hn h := SendsOnly.onMessage hn (onMessage_ok h).1
  onSent hn h := SendsOnly.onSent hn (onSent_ok h).1

theorem returns (h : HandlerReturns η) : HandlerReturns (Recorded η) := by
  intro n δ _ _ hn r l
  refine ⟨fun m => ?_, ?_⟩
  · obtain ⟨s, hs⟩ := (h hn r.handler l).1 m
    exact ⟨(⟨s.1, r.messages ++ [m]⟩, s.2), Run.result_bind_eq_ok.mpr ⟨s, hs, rfl⟩⟩
  · obtain ⟨s, hs⟩ := (h hn r.handler l).2
    exact ⟨(⟨s.1, r.messages⟩, s.2), Run.result_bind_eq_ok.mpr ⟨s, hs, rfl⟩⟩

end Recorded

namespace Endpoint

variable {n : Nat} {σ η : Type}

/-! ## The invariant -/

/-- The endpoint has delivered what was read, and reported what it could not deliver. -/
structure Follows (e : Endpoint n (StreamMedium (Tap σ)) (Recorded η)) (reports : List Oversized) : Prop where
  holds : e.Holds e.link.medium.received (Framing.parse e.link.medium.stream.taken).2
  messages : e.handler.messages = Framing.fitting e.capacity e.link.medium.stream.taken
  oversized : e.oversized = .of (Framing.excess e.capacity e.link.medium.stream.taken).length
  reports : reports = (Framing.excess e.capacity e.link.medium.stream.taken).map fun length => ⟨length, e.capacity⟩

variable {e e' : Endpoint n (StreamMedium (Tap σ)) (Recorded η)} {reports : List Oversized}
  {result : Except PollError Bool}

/-- More bytes were read, and the endpoint did with them what they ask for. -/
theorem Follows.advance (h : e.Follows reports) {new : Bytes} (late : List Nat)
    (htaken : e'.link.medium.stream.taken = e.link.medium.stream.taken ++ new)
    (hholds : e'.Holds e'.link.medium.received
      (Framing.parse ((Framing.parse e.link.medium.stream.taken).2 ++ new)).2)
    (hmessages : e'.handler.messages = e.handler.messages ++
      Framing.fitting e.capacity ((Framing.parse e.link.medium.stream.taken).2 ++ new))
    (hexcess : Framing.excess e.capacity (e.link.medium.stream.taken ++ new) =
      Framing.excess e.capacity e.link.medium.stream.taken ++ late)
    (hoversized : e'.oversized = e.oversized.plus late.length) :
    e'.Follows (reports ++ late.map fun length => ⟨length, e.capacity⟩) := by
  refine ⟨?_, ?_, ?_, ?_⟩
  · rw [htaken, Framing.parse_append]
    exact hholds
  · rw [htaken, hmessages, h.messages]
    exact (Framing.fitting_append _ _ _).symm
  · rw [htaken, hoversized, h.oversized, Counter.of_plus, ← List.length_append]
    exact congrArg (fun lengths => Counter.of lengths.length) hexcess.symm
  · rw [htaken, h.reports, ← List.map_append]
    exact congrArg (List.map _) hexcess.symm

variable [Stream σ] [Handler η] [SendsOnly η]

/-- Receiving keeps in step, whatever it does. -/
theorem Follows.pollReceive (hn : Header.size < n) (h : e.Follows reports)
    (hrun : e.pollReceive.result = .ok (result, e')) : e'.Follows (reports ++ reported result) := by
  obtain ⟨new, stream, htaken, hstep⟩ := receives_of_pollReceive (Tap.readLaw e.link.medium.stream.taken) hn
    (List.append_nil _).symm h.holds hrun
  rw [List.nil_append] at htaken
  cases hstep with
  | wait hresult hdeclared hholds =>
    have hopen := hholds.unfinished
    have hquiet : reported result = [] := by rcases hresult with rfl | ⟨kind, rfl⟩ <;> rfl
    rw [hquiet]
    refine h.advance [] htaken ?_ ?_ (Framing.excess_grows ?_) (Counter.plus_zero _).symm
    · rw [Framing.parse_unfinished hopen]
      exact hholds
    · rw [Framing.fitting_unfinished _ hopen, List.append_nil]
      rfl
    · rw [Framing.excess_unfinished _ hopen, Framing.excess_unfinished _ (Framing.unfinished_parse _), hdeclared,
        List.append_nil]
  | @report report e' hreport =>
    obtain ⟨delivered, late, hadvances⟩ := hreport.advance
    have hreported : reported (reportOf report) = late.map fun length => ⟨length, e.capacity⟩ := by
      rw [← absorb_capacity e new stream, ← hadvances.refused]
      cases report <;> rfl
    rw [hreported]
    have hholds := hadvances.holds
    rw [Framing.parse_append] at hholds
    have hfitting := hadvances.fitting
    have hexcess := hadvances.excess
    rw [absorb_capacity] at hfitting hexcess
    cases hadvances.handsOver with
    | nothing hhandler hlink =>
      refine h.advance late ?_ ?_ ?_ hexcess hadvances.oversized
      · rw [hlink]
        exact htaken
      · rw [hlink]
        exact hholds
      · rw [hhandler, hfitting, List.append_nil]
        rfl
    | message honMessage hhandler hlink =>
      obtain ⟨hinner, hmessages⟩ := Recorded.onMessage_ok honMessage
      have hstream := (SendsOnly.onMessage hn hinner).stream.1
      refine h.advance late ?_ ?_ ?_ hexcess hadvances.oversized
      · rw [hlink]
        exact (congrArg Tap.taken hstream).trans htaken
      · rw [hlink]
        exact hholds
      · rw [hhandler, hfitting]
        exact hmessages

/-- Sending takes no part in the reception. -/
theorem Follows.pollSend (hn : Header.size < n) (h : e.Follows reports) (hrun : e.pollSend.result = .ok (result, e')) :
    e'.Follows (reports ++ reported result) := by
  obtain ⟨new, stream, htaken, hstep⟩ := @sends_of_pollSend n (Tap σ) (Recorded η) _ _ _
    (Tap.writeLaw e.link.medium.stream.taken) e e' [] result rfl hrun
  -- only the stream, the handler and the link have changed, and none of them in what was read
  have hkeep : ∀ (r : Recorded η × Link n (StreamMedium (Tap σ))), r.1.messages = e.handler.messages →
      r.2.medium.stream = stream → r.2.medium.received = e.link.medium.received →
      ({ e with handler := r.1, link := r.2 } : Endpoint n (StreamMedium (Tap σ)) (Recorded η)).Follows
        (reports ++ []) := by
    intro r hmessages hstream hreceived
    rw [List.append_nil]
    have hsame : r.2.medium.stream.taken = e.link.medium.stream.taken := by rw [hstream, htaken]
    refine ⟨?_, ?_, ?_, ?_⟩
    · simp only [hsame, hreceived]
      exact h.holds.congr rfl rfl
    · exact (hmessages.trans h.messages).trans (by rw [hsame]; rfl)
    · exact h.oversized.trans (by rw [hsame]; rfl)
    · exact h.reports.trans (by rw [hsame]; rfl)
  cases hstep with
  | idle harmed hnew hstream => exact (List.append_nil reports).symm ▸ h
  | wait harmed hrest hresult hleft =>
    have hkept := hkeep ((e.release new stream).handler, (e.release new stream).link) rfl rfl rfl
    rcases hresult with rfl | ⟨kind, rfl⟩ <;> exact hkept
  | @report frame r harmed hnew honSent =>
    obtain ⟨hinner, hmessages⟩ := Recorded.onSent_ok honSent
    obtain ⟨hstream, hreceived⟩ := (SendsOnly.onSent hn hinner).stream
    exact hkeep r hmessages hstream hreceived

end Endpoint

/-! ## Any sequence of polls -/

namespace PollCall

variable {n : Nat} {σ η : Type} [Stream σ] [Handler η]

/-- Poll an endpoint in one way after the other, and collect the results. -/
def runAll (e : Endpoint n (StreamMedium σ) η) :
    List PollCall → Run (List (Except PollError Bool) × Endpoint n (StreamMedium σ) η)
  | [] => pure ([], e)
  | call :: calls => do
    let (result, e) ← call.run e
    let (results, e) ← runAll e calls
    pure (result :: results, e)

theorem runAll_returns (hreturns : HandlerReturns η) (hn : Header.size < n) (e : Endpoint n (StreamMedium σ) η)
    (calls : List PollCall) :
    (∃ r, (runAll e calls).result = .ok r) ∨
      (runAll e calls).result = .error .exhausted ∧ ∃ rounds, both rounds ∈ calls := by
  induction calls generalizing e with
  | nil => exact .inl ⟨_, rfl⟩
  | cons call calls ih =>
    simp only [runAll, Run.result_bind]
    obtain ⟨⟨result, e'⟩, hresult⟩ | ⟨hstop, rounds, rfl⟩ := call.run_returns hreturns hn e
    · rw [hresult, Outcomes.ok_bind]
      obtain ⟨⟨results, e''⟩, hresults⟩ | ⟨hstop, rounds, hmem⟩ := ih e'
      · exact .inl ⟨_, by rw [hresults]; rfl⟩
      · exact .inr ⟨by rw [hstop]; rfl, rounds, .tail _ hmem⟩
    · exact .inr ⟨by rw [hstop]; rfl, rounds, .head _⟩

theorem runAll_follows [SendsOnly η] (hn : Header.size < n) {e e' : Endpoint n (StreamMedium (Tap σ)) (Recorded η)}
    {reports : List Oversized} {calls : List PollCall} {results : List (Except PollError Bool)}
    (h : e.Follows reports) (hrun : (runAll e calls).result = .ok (results, e')) :
    e'.Follows (reports ++ results.flatMap Endpoint.reported) := by
  induction calls generalizing e reports results with
  | nil =>
    cases hrun
    rwa [List.flatMap_nil, List.append_nil]
  | cons call calls ih =>
    obtain ⟨⟨result, e₁⟩, hcall, hrest⟩ := Run.result_bind_eq_ok.mp hrun
    obtain ⟨⟨later, e₂⟩, hlater, hlast⟩ := Run.result_bind_eq_ok.mp hrest
    cases hlast
    have h₁ : e₁.Follows (reports ++ Endpoint.reported result) :=
      run_keeps (fun reports e => e.Follows reports) (fun _ _ _ _ h hsend => h.pollSend hn hsend)
        (fun _ _ _ _ h hreceive => h.pollReceive hn hreceive) reports h hcall
    rw [List.flatMap_cons, ← List.append_assoc]
    exact ih h₁ hlater

end PollCall

namespace Endpoint

variable {n : Nat} {σ η : Type} [Stream σ]

/-- A new endpoint has read nothing. -/
theorem attach_follows (hn : Header.size < n) (source : σ) (handler : η) :
    ∃ e : Endpoint n (StreamMedium (Tap σ)) (Recorded η),
      (attach n ⟨⟨source, []⟩, 0, 0⟩ ⟨handler, []⟩).result = .ok e ∧ e.Follows [] := by
  refine ⟨_, attach_fresh hn _ _, ?_⟩
  have hparse : Framing.parse [] = ([], []) := Framing.parse_unfinished Framing.unfinished_nil
  have hexcess : ∀ capacity, Framing.excess capacity [] = [] := fun capacity => by
    simp [Framing.excess_unfinished capacity Framing.unfinished_nil, Framing.declared?]
  refine ⟨?_, ?_, ?_, ?_⟩
  · show Holds _ 0 (Framing.parse []).2
    rw [hparse]
    exact .fresh rfl
  · exact (Framing.fitting_unfinished _ Framing.unfinished_nil).symm
  · exact (congrArg (fun lengths => Counter.of lengths.length) (hexcess _)).symm
  · exact (congrArg (List.map _) (hexcess _)).symm

variable [Handler η]

/-- A new endpoint over a stream, both under watch, polled in one way after the other. -/
def watch (n : Nat) (source : σ) (handler : η) (calls : List PollCall) :
    Run (List (Except PollError Bool) × Endpoint n (StreamMedium (Tap σ)) (Recorded η)) := do
  let e ← attach n ⟨⟨source, []⟩, 0, 0⟩ ⟨handler, []⟩
  PollCall.runAll e calls

/-- The messages that reach the handler are the frames of the bytes read so far that fit the buffer, and
the lengths reported as oversized are those of the frames that do not, each of them counted up to where the
counter stays. The bytes after the last complete frame are where the reception stands. Polls return if the
handler does, except for one that goes on until its rounds are used up. -/
theorem polls_deliver_parse [SendsOnly η] (hn : Header.size < n) (source : σ) (handler : η) (calls : List PollCall) :
    (∀ results e, (watch n source handler calls).result = .ok (results, e) →
      let read := e.link.medium.stream.taken
      e.handler.messages = Framing.fitting (n - Header.size) read ∧
      e.oversized = .of (Framing.excess (n - Header.size) read).length ∧
      results.flatMap reported = (Framing.excess (n - Header.size) read).map (⟨·, n - Header.size⟩) ∧
      (Framing.parse read).1.flatMap Message.frame ++ (Framing.parse read).2 = read ∧
      e.Holds e.link.medium.received (Framing.parse read).2) ∧
    (HandlerReturns η → (∃ r, (watch n source handler calls).result = .ok r) ∨
      (watch n source handler calls).result = .error .exhausted ∧ ∃ rounds, .both rounds ∈ calls) := by
  obtain ⟨start, hstart, hfollows⟩ := attach_follows hn source handler
  have hwatch : (watch n source handler calls).result = (PollCall.runAll start calls).result := by
    rw [watch, Run.result_bind, hstart, Outcomes.ok_bind]
  rw [hwatch]
  refine ⟨fun results e hrun => ?_, fun hreturns => PollCall.runAll_returns (Recorded.returns hreturns) hn start calls⟩
  have h := PollCall.runAll_follows hn hfollows hrun
  exact ⟨h.messages, h.oversized, h.reports, Framing.flatten_parse _, h.holds⟩

/-- A frame that is too long, cut inside its header by a pause and inside its payload by a failure, and
then one that fits. -/
def cutFrames : Bench.Script :=
  { reads := [.bytes [1, 2, 3], .fail .wouldBlock, .bytes [0, 4, 9, 9], .fail .brokenPipe,
      .bytes [9, 9, 7, 8, 6, 0, 2], .bytes [65, 66, 5]] }

theorem polls_deliver_parse_cutFrames : Header.size < 8 ∧ HandlerReturns ResponseSlot ∧
    ∃ results e, (watch 8 cutFrames ({} : ResponseSlot)
        [.receive, .receive, .send, .receive, .both 6, .receive]).result = .ok (results, e) ∧
      e.handler.messages = [⟨7, 8, 6, [65, 66]⟩] ∧ e.oversized = 1 ∧ results.flatMap reported = [⟨4, 3⟩] := by
  have hrun : ((watch 8 cutFrames ({} : ResponseSlot)
      [.receive, .receive, .send, .receive, .both 6, .receive]).result.toOption.map
        fun r => r.2.link.medium.stream.taken) =
      some [1, 2, 3, 0, 4, 9, 9, 9, 9, 7, 8, 6, 0, 2, 65, 66, 5] := by cbv
  obtain ⟨⟨results, e⟩, hok, htaken⟩ := Option.map_eq_some_iff.mp hrun
  have hresult := Outcomes.toOption_eq_some.mp hok
  obtain ⟨hmessages, hoversized, hreports, _⟩ := (polls_deliver_parse (by decide) _ _ _).1 results e hresult
  rw [htaken] at hmessages hoversized hreports
  refine ⟨by decide, ResponseSlot.returns, results, e, hresult, hmessages.trans ?_, hoversized.trans ?_,
    hreports.trans ?_⟩
  · cbv
  · cbv
  · cbv

end Endpoint

end BusBridge

import BusBridge.Proofs.Failures
import BusBridge.Proofs.LateResponses
/-!
# Responses that arrived

While a call waits, the response may come in and be put into the slot, and in the same poll something else may go
wrong. `delivered_response_returned` says what the call returns then. A caller over a polled medium returns the
response, also if a frame was skipped as too long or if its time is over, except when the medium failed in the very
poll that put the response into the slot: then it reports the failure, and the response is lost. A caller over a
stream in time looks into its slot before it reads on, so it always returns the response. Which message is the
response is a matter of the bytes alone (`response?`), so on the same bytes both return the same one unless the
medium failed so; `response_lost` is a run of each in which they differ.

**What it does not establish.** Nothing is said of a response that comes in while the call still settles or, over a
stream in time, still writes.
-/

namespace BusBridge

open Framing

/-- The response to a message, among the frames in the bytes that came in since it was started: the first one that
fits and that is waited for. -/
def response? (capacity : Nat) (asked : Message) (inbound : Bytes) : Option Message :=
  (fitting capacity inbound).find? (ResponseSlot.awaited asked.component (responseTo asked.operation))

/-- A response stays the response, whatever comes in behind it. -/
theorem response?_append {capacity : Nat} {asked m : Message} {inbound : Bytes} (more : Bytes)
    (h : response? capacity asked inbound = some m) : response? capacity asked (inbound ++ more) = some m := by
  unfold response? at *
  rw [fitting_append, List.find?_append, h]
  rfl

/-- What came in between two moments: the frame that was open at the first one, and what was received since. -/
def Inbound (early taken inbound : Bytes) : Prop :=
  ∃ fresh, taken = early ++ fresh ∧ inbound = (parse early).2 ++ fresh

theorem Inbound.of_nothing (bytes : Bytes) : Inbound [] bytes bytes :=
  ⟨bytes, rfl, by rw [parse_unfinished unfinished_nil, List.nil_append]⟩

/-- A slot that waited since a message was started has the response to it, if that came in. -/
theorem Heard.response_eq {capacity : Nat} {asked : Message} {early taken inbound : Bytes} {before slot : ResponseSlot}
    (h : Heard capacity early taken (before.expect asked.component (responseTo asked.operation)) slot)
    (hinbound : Inbound early taken inbound) : slot.response = response? capacity asked inbound := by
  obtain ⟨fresh, htaken, hslot⟩ := h
  obtain ⟨fresh', htaken', hin⟩ := hinbound
  obtain rfl : fresh = fresh' := List.append_cancel_left (htaken.symm.trans htaken')
  rw [hslot, hin, response?]
  exact ResponseSlot.foldl_hear_response ..

/-! ## Calls over a polled medium -/

namespace Caller

variable {n : Nat} {δ φ : Type} [Medium δ φ] [CallFailure φ] {c c' : Caller n δ} {rounds : Nat}

/-- What a call returns if the poll that put its response into the slot ended so. -/
def concluded (m : Message) : Except (PollError φ) Bool → Except CallError Message
  | .error (.medium failure) => .error (CallFailure.toCall failure)
  | .error (.oversized _) | .ok _ => .ok m

theorem awaitTurn_concludes {late : Nat → Bool} {looks : Nat} {polled : Except (PollError φ) Bool}
    {e : Endpoint n δ ResponseSlot} {m : Message} (hpoll : (c.endpoint.poll rounds).result = .ok (polled, e))
    (hresponse : (KeepsSlot.slot e.handler).response = some m) :
    ∃ c', (awaitTurn rounds late (looks, c)).result = .ok (.done (concluded m polled, c')) := by
  rcases polled with (failure | oversized) | progress <;>
    simp only [awaitTurn, step, Run.result_bind, hpoll, Outcomes.ok_bind, Run.result_pure, slot, ResponseSlot.take,
      hresponse] <;>
    exact ⟨_, rfl⟩

theorem awaitCoopTurn_concludes {cut : Nat → Bool} {pauses : Nat} {polled : Except (PollError φ) Bool}
    {e : Endpoint n δ ResponseSlot} {m : Message} (hpoll : (c.endpoint.poll rounds).result = .ok (polled, e))
    (hresponse : (KeepsSlot.slot e.handler).response = some m) :
    ∃ c', (awaitCoopTurn rounds cut (pauses, c)).result = .ok (.done (concluded m polled, pauses, c')) := by
  rcases polled with (failure | oversized) | progress <;>
    simp only [awaitCoopTurn, step, Run.result_bind, hpoll, Outcomes.ok_bind, Run.result_pure, slot, ResponseSlot.take,
      hresponse] <;>
    exact ⟨_, rfl⟩

namespace Demand

variable {d : Demand}

theorem Waits.polls {timeout : Duration} {s s' : Nat × Caller n δ} {count : Nat}
    (h : d.Waits rounds timeout s count s') :
    Polls rounds s.2.endpoint s'.2.endpoint := by
  cases d with
  | blocking clock ask =>
    refine Run.Turns.keeps (fun s' => Polls rounds s.2.endpoint s'.2.endpoint) ?_ h .refl
    intro s₁ s₂ hpolls hturn
    obtain ⟨polled, e, hpoll, rfl⟩ := awaitTurn_polls hturn
    exact .poll hpolls hpoll
  | cooperative cut channel r =>
    refine Run.Turns.keeps (fun s' => Polls rounds s.2.endpoint s'.2.endpoint) ?_ h .refl
    intro s₁ s₂ hpolls hturn
    obtain ⟨polled, e, hpoll, rfl⟩ := awaitCoopTurn_polls hturn
    exact .poll hpolls hpoll

/-- The slot of a call that has begun waits for the response to its message. -/
theorem begin_slot {looks : Nat} {begun : Caller n δ} (hn : Header.size < n)
    (h : (d.begin rounds c).result = .ok (.ok looks, begun)) :
    ∃ before : ResponseSlot,
      begun.slot = before.expect d.ask.message.component (responseTo d.ask.message.operation) := by
  obtain ⟨settled, _, hstart⟩ := begin_ok h
  exact ⟨settled.slot, congrArg Endpoint.handler (Ask.start_ok hn hstart).endpoint⟩

/-- A call concludes with the poll that puts its response into the slot. -/
theorem run_concludes {looks count : Nat} {begun : Caller n δ} {s : Nat × Caller n δ}
    {polled : Except (PollError φ) Bool} {e : Endpoint n δ ResponseSlot} {m : Message}
    (htells : d.Tells c.settings.timeout) (hbegin : (d.begin rounds c).result = .ok (.ok looks, begun))
    (hwaits : d.Waits rounds c.settings.timeout (looks, begun) count s) (hcount : count < rounds)
    (hpoll : (s.2.endpoint.poll rounds).result = .ok (polled, e)) (hresponse : e.handler.response = some m) :
    ∃ c', (d.run rounds c).result = .ok (concluded m polled, c') := by
  cases d with
  | blocking clock ask =>
    have hlast : ∃ c', (awaitTurn rounds (clock.late c.settings.timeout) s).result =
        .ok (.done (concluded m polled, c')) :=
      awaitTurn_concludes hpoll hresponse
    obtain ⟨c', hturn⟩ := hlast
    exact ⟨c', (run_begun htells hbegin).mpr (Run.Turns.loop_done hwaits hturn hcount)⟩
  | cooperative cut channel r =>
    have hlast : ∃ c', (awaitCoopTurn rounds cut s).result = .ok (.done (concluded m polled, s.1, c')) :=
      awaitCoopTurn_concludes hpoll hresponse
    obtain ⟨c', hturn⟩ := hlast
    refine ⟨c'.conclude (concluded m polled), (run_begun htells hbegin).mpr ?_⟩
    exact Run.result_bind_eq_ok.mpr ⟨_, Run.Turns.loop_done hwaits hturn hcount, rfl⟩

/-- While a call waits, a poll brings what came in since its frame was started to `inbound`, and ends so. -/
def Receives [Metered δ φ] (rounds : Nat) (c : Caller n δ) (d : Demand) (inbound : Bytes)
    (polled : Except (PollError φ) Bool) :
    Prop :=
  d.Tells c.settings.timeout ∧ ∃ looks begun count s e, (d.begin rounds c).result = .ok (.ok looks, begun) ∧
    d.Waits rounds c.settings.timeout (looks, begun) count s ∧ count < rounds ∧
      (s.2.endpoint.poll rounds).result = .ok (polled, e) ∧
    Inbound begun.taken e.taken inbound

/-- The caller of a call after so many polls of its wait, if none of them ends it. -/
def waiting (rounds : Nat) (timeout : Duration) (s : Nat × Caller n δ) (count : Nat) :
    Demand → Run (Option (Nat × Caller n δ))
  | blocking clock _ => Run.turns (awaitTurn rounds (clock.late timeout)) s count
  | cooperative cut _ _ => Run.turns (awaitCoopTurn rounds cut) s count

/-- Make a call up to the poll after so many others: what had been received when its frame was started, how the poll
ends, and what has been received then. -/
def watch [Metered δ φ] (rounds count : Nat) (c : Caller n δ) (d : Demand) :
    Run (Option (Bytes × Except (PollError φ) Bool × Bytes)) := do
  match ← d.begin rounds c with
  | (.error _, _) => pure none
  | (.ok looks, begun) =>
    match ← d.waiting rounds c.settings.timeout (looks, begun) count with
    | none => pure none
    | some s =>
      let (polled, e) ← s.2.endpoint.poll rounds
      pure (some (begun.taken, polled, e.taken))

theorem Receives.of_watch [Metered δ φ] {count : Nat} {early taken inbound : Bytes} {polled : Except (PollError φ) Bool}
    (htells : d.Tells c.settings.timeout) (hcount : count < rounds) (hinbound : Inbound early taken inbound)
    (h : (d.watch rounds count c).result = .ok (some (early, polled, taken))) :
    d.Receives rounds c inbound polled := by
  obtain ⟨⟨looks, begun⟩, hbegin, hrest⟩ := Run.result_bind_eq_ok.mp h
  cases looks with
  | error e => cases hrest
  | ok looks =>
    obtain ⟨s, hwaiting, hrest⟩ := Run.result_bind_eq_ok.mp hrest
    cases s with
    | none => cases hrest
    | some s =>
      obtain ⟨⟨polled', e⟩, hpoll, hlast⟩ := Run.result_bind_eq_ok.mp hrest
      simp only [Run.result_pure, Except.ok.injEq, Option.some.injEq, Prod.mk.injEq] at hlast
      obtain ⟨rfl, rfl, rfl⟩ := hlast
      have hwaits : d.Waits rounds c.settings.timeout (looks, begun) count s := by
        cases d <;> exact .of_turns hwaiting
      exact ⟨htells, looks, begun, count, s, e, hbegin, hwaits, hcount, hpoll, hinbound⟩

theorem Receives.concludes [Metered δ φ] {inbound : Bytes} {polled : Except (PollError φ) Bool} {m : Message}
    (h : d.Receives rounds c inbound polled) (hreachable : c.Reachable)
    (hresponse : response? (n - Header.size) d.ask.message inbound = some m) :
    ∃ c', (d.run rounds c).result = .ok (concluded m polled, c') := by
  obtain ⟨htells, looks, begun, count, s, e, hbegin, hwaits, hcount, hpoll, hinbound⟩ := h
  obtain ⟨hn, htracks⟩ := hreachable.tracks
  have hheard := ((Polls.poll hwaits.polls hpoll).listens hn (begin_tracks hn htracks hbegin)).heard
  obtain ⟨before, hslot⟩ := begin_slot hn hbegin
  have hslot : begun.endpoint.handler = _ := hslot
  rw [hslot] at hheard
  exact run_concludes htells hbegin hwaits hcount hpoll ((hheard.response_eq hinbound).trans hresponse)

end Demand

end Caller

/-! ## Calls over a stream in time -/

namespace TimedCaller

variable {n : Nat} {τ : Type} [TimedStream τ] {c c' : TimedCaller n (Tap τ)} {rounds deadline : Nat}

theorem awaitTurn_takes {m : Message} (h : c.slot.response = some m) :
    (awaitTurn rounds deadline c).result = .ok (.done (.ok m, c.setSlot c.slot.take.2)) := by
  simp only [awaitTurn, ResponseSlot.take, h, Run.result_pure]

theorem turns_listen {count : Nat} (hn : Header.size < n) (htracks : c.Tracks)
    (h : Run.Turns (awaitTurn rounds deadline) c count c') : c.Listens c' := by
  refine h.keeps (fun c' => c.Listens c') ?_ htracks.listens
  intro c₁ c₂ hlistens hturn
  exact hlistens.trans (receive_listens hn hlistens.tracks (awaitTurn_cases hturn))

/-- While a call waits, it has received blocks that bring what came in since its frame was started to `inbound`. -/
def Receives (rounds : Nat) (c : TimedCaller n (Tap τ)) (channel : UInt8) (r : Request) (inbound : Bytes) : Prop :=
  ∃ begun sent count waiting, (c.prepare rounds channel r).result = .ok (.ok (), begun) ∧
    (begun.sendFrame rounds c.due).result = .ok (.ok (), sent) ∧ Run.Turns (awaitTurn rounds c.due) sent count waiting ∧
    count < rounds ∧ Inbound begun.taken waiting.taken inbound

/-- Make a call up to its so many received blocks: what had been received when its frame was started, and what has
been received then. -/
def watch (rounds count : Nat) (c : TimedCaller n (Tap τ)) (channel : UInt8) (r : Request) :
    Run (Option (Bytes × Bytes)) := do
  match ← c.prepare rounds channel r with
  | (.error _, _) => pure none
  | (.ok _, begun) =>
    match ← begun.sendFrame rounds c.due with
    | (.error _, _) => pure none
    | (.ok _, sent) =>
      match ← Run.turns (awaitTurn rounds c.due) sent count with
      | none => pure none
      | some waiting => pure (some (begun.taken, waiting.taken))

theorem Receives.of_watch {channel : UInt8} {r : Request} {count : Nat} {early taken inbound : Bytes}
    (hcount : count < rounds) (hinbound : Inbound early taken inbound)
    (h : (c.watch rounds count channel r).result = .ok (some (early, taken))) :
    c.Receives rounds channel r inbound := by
  obtain ⟨⟨started, begun⟩, hprepare, hrest⟩ := Run.result_bind_eq_ok.mp h
  cases started with
  | error stop => cases hrest
  | ok _ =>
    obtain ⟨⟨result, sent⟩, hsend, hrest⟩ := Run.result_bind_eq_ok.mp hrest
    cases result with
    | error stop => cases hrest
    | ok _ =>
      obtain ⟨waiting, hturns, hlast⟩ := Run.result_bind_eq_ok.mp hrest
      cases waiting with
      | none => cases hlast
      | some waiting =>
        simp only [Run.result_pure, Except.ok.injEq, Option.some.injEq, Prod.mk.injEq] at hlast
        obtain ⟨rfl, rfl⟩ := hlast
        exact ⟨begun, sent, count, waiting, hprepare, hsend, .of_turns hturns, hcount, hinbound⟩

/-- A call goes on from where it was prepared. -/
theorem call_prepared {channel : UInt8} {r : Request} {m : Message} {begun sent : TimedCaller n (Tap τ)}
    (hprepare : (c.prepare rounds channel r).result = .ok (.ok (), begun))
    (hsend : (begun.sendFrame rounds c.due).result = .ok (.ok (), sent))
    (hawait : (sent.await rounds c.due).result = .ok (.ok m, c')) :
    (c.call rounds channel r).result = .ok (.ok m, c') := by
  have hexchange : (c.exchange rounds c.due channel r).result = .ok (.ok m, c') := by
    simp only [exchange_result, hprepare, hsend, hawait, Outcomes.ok_bind]
  exact Run.result_bind_eq_ok.mpr ⟨_, hexchange, rfl⟩

theorem Receives.returns {channel : UInt8} {r : Request} {inbound : Bytes} {m : Message}
    (h : c.Receives rounds channel r inbound) (hreachable : c.Reachable)
    (hresponse : response? (n - Header.size) (r.message channel) inbound = some m) :
    ∃ c', (c.call rounds channel r).result = .ok (.ok m, c') := by
  obtain ⟨begun, sent, count, waiting, hprepare, hsend, hturns, hcount, hinbound⟩ := h
  obtain ⟨hn, htracks⟩ := hreachable.tracks
  obtain ⟨hbegun, settled, _, _, hslot⟩ := prepare_listens hn htracks hprepare
  have hsent := (sendFrame_quiet hsend).listens hbegun
  have hheard : Heard (n - Header.size) begun.taken waiting.taken
      (settled.expect (r.message channel).component (responseTo (r.message channel).operation)) waiting.slot := by
    have hbefore :
        begun.slot = settled.expect (r.message channel).component (responseTo (r.message channel).operation) :=
      hslot rfl
    rw [← hbefore]
    exact (hsent.trans (turns_listen hn hsent.tracks hturns)).heard
  have hslot : waiting.slot.response = some m := (hheard.response_eq hinbound).trans hresponse
  exact ⟨_, call_prepared hprepare hsend (hturns.loop_done (awaitTurn_takes hslot) hcount)⟩

end TimedCaller

/-! ## What a call returns of a response that came in -/

/-- A call returns the response that came in while it waited. Over a polled medium, with any clock, it does so unless
the medium failed in the poll that brought the response, and then it returns that failure. Over a stream in time it
always does so, once it received a part of the same bytes that has a response. -/
theorem delivered_response_returned (n rounds : Nat) {asked m : Message} {inbound : Bytes}
    (hresponse : response? (n - Header.size) asked inbound = some m) :
    (∀ {δ φ : Type} [Medium δ φ] [Metered δ φ] [CallFailure φ] {c : Caller n δ} {d : Caller.Demand}
      {polled : Except (PollError φ) Bool},
      c.Reachable → d.ask.message = asked → d.Receives rounds c inbound polled →
        ∃ c', (d.run rounds c).result = .ok (Caller.concluded m polled, c')) ∧
    (∀ {τ : Type} [TimedStream τ] {c : TimedCaller n (Tap τ)} {channel : UInt8} {r : Request} {part more : Bytes},
      c.Reachable → r.message channel = asked → inbound = part ++ more →
      (response? (n - Header.size) asked part).isSome → c.Receives rounds channel r part →
        ∃ c', (c.call rounds channel r).result = .ok (.ok m, c')) := by
  constructor
  · intro δ φ _ _ _ c d polled hreachable hasked hreceives
    subst hasked
    exact hreceives.concludes hreachable hresponse
  · intro τ _ c channel r part more hreachable hasked hinbound hsome hreceives
    subst hasked hinbound
    obtain ⟨m', hpart⟩ := Option.isSome_iff_exists.mp hsome
    obtain rfl : m' = m := Option.some.inj ((response?_append more hpart).symm.trans hresponse)
    exact hreceives.returns hreachable hpart

/-! ## Calls on the same bytes -/

/-- A caller over a line that answers the first frame. -/
def pollingCaller (answer : List Bench.Supply) : Caller 16 (StreamMedium (Tap Bench.Script)) :=
  ⟨⟨.idle ⟨⟨{ onFlush := [answer] }, []⟩, 0, 0⟩, .zeroed 16, .header, {}, 0⟩, {}⟩

/-- A caller over a line in time that answers the first frame at once. -/
def timedCaller (answer : List Bench.Supply) : TimedCaller 16 (Tap Bench.Timetable) :=
  { stream := ⟨{ onFlush := [answer.map fun item => ⟨0, item⟩] }, []⟩
    endpoint := ⟨.idle ⟨⟩, .zeroed 16, .header, {}, 0⟩
    settings := {} }

theorem pollingCaller_reachable (answer : List Bench.Supply) : (pollingCaller answer).Reachable :=
  @Caller.Reachable.attach 16 _ _ _ _ _ ⟨⟨{ onFlush := [answer] }, []⟩, 0, 0⟩ {} _ rfl rfl

theorem timedCaller_reachable (answer : List Bench.Supply) : (timedCaller answer).Reachable :=
  @TimedCaller.Reachable.attach 16 _ _ ⟨{ onFlush := [answer.map fun item => ⟨0, item⟩] }, []⟩ {} _ rfl rfl

/-- A response, and the header of a frame that is too long. -/
def responseAndExcess : Bytes :=
  [0, 130, 0, 0, 1, 0xbb, 9, 9, 9, 0, 20]

/-- A call whose time is over at each look. -/
def overdueCall : Caller.Demand :=
  .blocking (.showing fun _ => 1000) (.request 0 .firmwareVersion)

theorem delivered_response_returned_excess :
    response? 11 ⟨0, 2, 0, []⟩ responseAndExcess = some ⟨0, 130, 0, [0xbb]⟩ ∧
    overdueCall.Receives 10 (pollingCaller [.bytes responseAndExcess]) responseAndExcess
      (.error (.oversized ⟨20, 11⟩)) ∧
    (∃ c', (overdueCall.run 10 (pollingCaller [.bytes responseAndExcess])).result =
      .ok (.ok ⟨0, 130, 0, [0xbb]⟩, c')) ∧
    (timedCaller [.bytes responseAndExcess, .eof]).Receives 10 0 .firmwareVersion [0, 130, 0, 0, 1, 0xbb] ∧
    ∃ c', ((timedCaller [.bytes responseAndExcess, .eof]).call 10 0 .firmwareVersion).result =
      .ok (.ok ⟨0, 130, 0, [0xbb]⟩, c') := by
  have hresponse : response? 11 ⟨0, 2, 0, []⟩ responseAndExcess = some ⟨0, 130, 0, [0xbb]⟩ := by cbv
  have hpolled : overdueCall.Receives 10 (pollingCaller [.bytes responseAndExcess]) responseAndExcess
      (.error (.oversized ⟨20, 11⟩)) :=
    .of_watch (show Clock.Tells _ _ by decide) (show 0 < 10 by decide) (.of_nothing _) (by cbv)
  have htimed : (timedCaller [.bytes responseAndExcess, .eof]).Receives 10 0 .firmwareVersion [0, 130, 0, 0, 1, 0xbb] :=
    .of_watch (show 2 < 10 by decide) (.of_nothing _) (by cbv)
  obtain ⟨hcaller, hstream⟩ := delivered_response_returned 16 10 hresponse
  exact ⟨hresponse, hpolled, hcaller (pollingCaller_reachable _) rfl hpolled, htimed,
    hstream (timedCaller_reachable _) rfl (show responseAndExcess =
      [0, 130, 0, 0, 1, 0xbb] ++ [9, 9, 9, 0, 20] from rfl)
      (by cbv) htimed⟩

/-- A response, and then the line breaks. -/
def responseAndBreak : List Bench.Supply :=
  [.bytes [0, 130, 0, 0, 1, 0xbb], .fail .brokenPipe]

/-- A response that came in just before the line broke is returned over a stream in time, and lost over a polled
medium. -/
theorem response_lost :
    response? 11 ⟨0, 2, 0, []⟩ [0, 130, 0, 0, 1, 0xbb] = some ⟨0, 130, 0, [0xbb]⟩ ∧
    overdueCall.Receives 10 (pollingCaller responseAndBreak) [0, 130, 0, 0, 1, 0xbb] (.error (.medium .brokenPipe)) ∧
    (∃ c', (overdueCall.run 10 (pollingCaller responseAndBreak)).result = .ok (.error (.bus .brokenPipe), c')) ∧
    ∃ c', ((timedCaller responseAndBreak).call 10 0 .firmwareVersion).result = .ok (.ok ⟨0, 130, 0, [0xbb]⟩, c') := by
  have hresponse : response? 11 ⟨0, 2, 0, []⟩ [0, 130, 0, 0, 1, 0xbb] = some ⟨0, 130, 0, [0xbb]⟩ := by cbv
  have hpolled : overdueCall.Receives 10 (pollingCaller responseAndBreak) [0, 130, 0, 0, 1, 0xbb]
      (.error (.medium .brokenPipe)) :=
    .of_watch (show Clock.Tells _ _ by decide) (show 0 < 10 by decide) (.of_nothing _) (by cbv)
  have htimed : (timedCaller responseAndBreak).Receives 10 0 .firmwareVersion [0, 130, 0, 0, 1, 0xbb] :=
    .of_watch (show 2 < 10 by decide) (.of_nothing _) (by cbv)
  exact ⟨hresponse, hpolled, hpolled.concludes (pollingCaller_reachable _) hresponse,
    htimed.returns (timedCaller_reachable _) hresponse⟩

end BusBridge

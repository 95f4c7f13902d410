import Mathlib
import BusBridge.Bench.Timetable
import BusBridge.Proofs.Calls
import BusBridge.Proofs.Metering
import BusBridge.Proofs.TimedCalls
/-!
# Late responses

Before a caller starts the frame of a call it receives what is there with nothing expected, so that a late
response to an earlier call is ignored. That is so of a response that has arrived as a whole by then. But the
input may pause inside a frame. Then a part of the frame has been received, the slot begins to wait, and the
rest of the frame completes a message that the slot takes if its component and operation agree.

`response_stale_iff` says what a call takes for its response: the first frame that is completed after its own
was started, that fits, and that the slot waits for. The frame of the response starts before that moment
exactly if a frame was only partly received then and no other one was completed in between.
`Caller.late_response_taken` is a run in which that happens.

**What it does not establish.** Nothing is said of calls that do not return, and nothing of who sent the
response: a frame that starts after the moment may still be an answer to an earlier call.
-/

namespace BusBridge

open Framing

/-- `m` was taken for the response to `asked`, where `before` had been received when the call was made, `early`
when its frame was started, and `taken` when it returned. -/
structure TakenFor (capacity : Nat) (asked m : Message) (before early taken : Bytes) (ignored ignored' : Counter) :
    Prop where
  /-- The first frame since its own was started that fits and that is waited for. It starts before that
  moment exactly if a frame was only partly received then, and it is this one. -/
  first : ∃ skipped, FirstMatch capacity early taken asked.component (responseTo asked.operation) skipped m ∧
    (start ((parse early).1 ++ skipped) < early.length ↔ (parse early).2 ≠ [] ∧ skipped = [])
  /-- every other frame that fits and was completed during the call was ignored -/
  ignored : ∃ others, (fitting capacity taken).length = (fitting capacity before).length + (others + 1) ∧
    ignored' = ignored.plus others

/-- A slot that heard everything takes the response so. -/
theorem takenFor_of_heard {capacity : Nat} {asked m : Message} {before early taken : Bytes}
    {slot settled heard : ResponseSlot} (hsettle : Heard capacity before early slot.reset settled)
    (hawait : Heard capacity early taken (settled.expect asked.component (responseTo asked.operation)) heard)
    (hresponse : heard.response = some m) :
    TakenFor capacity asked m before early taken slot.ignored heard.ignored := by
  obtain ⟨count, hcount, rfl⟩ := hsettle.ignores
  obtain ⟨others, hothers, hignored⟩ := hawait.ignores_others hresponse
  obtain ⟨skipped, hfirst⟩ := hawait.firstMatch hresponse
  refine ⟨⟨skipped, hfirst, hfirst.starts_before_iff⟩, count + others, by omega, ?_⟩
  rw [hignored, Counter.plus_plus]

/-- What can be seen of a call. -/
structure Sight where
  /-- the bytes received when its frame was started, if it was -/
  early : Option Bytes
  /-- the message that it returned, if it did -/
  result : Option Message
  /-- the bytes received in the end -/
  taken : Bytes
  /-- the messages ignored in the end -/
  ignored : Counter

/-! ## Calls over a metered medium -/

namespace Caller

variable {n : Nat} {δ φ : Type} [Medium δ φ] [Metered δ φ] {c c' : Caller n δ} {rounds : Nat}

/-- The bytes that the caller has received. -/
def taken (c : Caller n δ) : Bytes :=
  c.endpoint.taken

theorem Polls.listens {e e' : Endpoint n δ ResponseSlot} (h : Polls rounds e e') (hn : Header.size < n)
    (htracks : e.Tracks) :
    e.Listens e' :=
  h.keeps (fun e₁ => e.Listens e₁)
    (fun _ _ _ hlistens hpoll => hlistens.trans (Endpoint.poll_listens hn hlistens.tracks hpoll)) htracks.listens

theorem Ask.start_taken {ask : Ask} {result : Except CallError Unit} (h : (ask.start c).result = .ok (result, c')) :
    c'.taken = c.taken ∧ (c.endpoint.Tracks → c'.endpoint.Tracks) := by
  obtain ⟨⟨slot, hendpoint⟩, hemits⟩ := Ask.start_emits h
  obtain ⟨htaken, hreceived⟩ := Metered.emits hemits
  refine ⟨htaken, fun htracks => htracks.congr ?_ ?_ htaken hreceived⟩
  · rw [hendpoint]
  · rw [hendpoint]

variable [CallFailure φ]

namespace Demand

variable {d : Demand}

theorem begin_tracks {result : Except CallError Nat} (hn : Header.size < n) (h : c.endpoint.Tracks)
    (hrun : (d.begin rounds c).result = .ok (result, c')) : c'.endpoint.Tracks := by
  have hsettle : ∀ {result settled}, (d.settle rounds c).result = .ok (result, settled) → settled.endpoint.Tracks :=
    fun hrun => ((settle_polls hrun).listens hn (h.congr rfl rfl rfl rfl)).tracks
  cases result with
  | ok count =>
    obtain ⟨settled, hsettled, hstart⟩ := begin_ok hrun
    exact (Ask.start_taken hstart).2 (hsettle hsettled)
  | error error =>
    obtain hsettled | ⟨_, settled, hsettled, hstart⟩ := begin_error hrun
    · exact hsettle hsettled
    · exact (Ask.start_taken hstart).2 (hsettle hsettled)

/-- A call leaves an endpoint that tracks its bytes, however it ends. -/
theorem run_tracks {result : Except CallError Message} (hn : Header.size < n) (h : c.endpoint.Tracks)
    (hrun : (d.run rounds c).result = .ok (result, c')) : c'.endpoint.Tracks := by
  cases run_met hrun with
  | failed hbegin _ hquits =>
    have htracks := begin_tracks hn h hbegin
    obtain ⟨slot, hend⟩ := hquits.endpoint
    rw [hend]
    exact htracks.congr rfl rfl rfl rfl
  | ended hbegin hpolls hends =>
    have htracks := (hpolls.listens hn (begin_tracks hn h hbegin)).tracks
    obtain ⟨slot, hend⟩ := hends.endpoint
    rw [hend]
    exact htracks.congr rfl rfl rfl rfl

/-- A call that returns a message took it from what it heard. -/
theorem run_takes {m : Message} (hn : Header.size < n) (h : c.endpoint.Tracks)
    (hrun : (d.run rounds c).result = .ok (.ok m, c')) :
    ∃ count begun, (d.begin rounds c).result = .ok (.ok count, begun) ∧
      TakenFor (n - Header.size) d.ask.message m c.taken begun.taken c'.taken c.slot.ignored c'.slot.ignored := by
  cases run_met hrun with
  | failed _ hfailed _ => cases hfailed
  | @ended count begun e hbegin hpolls hends =>
    obtain ⟨settled, hsettle, hstart⟩ := begin_ok hbegin
    have hslot : begun.slot = settled.slot.expect d.ask.message.component (responseTo d.ask.message.operation) :=
      congrArg Endpoint.handler (Ask.start_ok hn hstart).endpoint
    obtain ⟨hresponse, hend⟩ := hends.response
    have hend : c'.taken = e.taken ∧ c'.slot.ignored = e.handler.ignored := by
      unfold Caller.taken Caller.slot
      rw [hend]
      exact ⟨rfl, rfl⟩
    have hsettled : Heard (n - Header.size) c.taken settled.taken c.slot.reset settled.slot :=
      ((settle_polls hsettle).listens hn (h.congr rfl rfl rfl rfl)).heard
    have hheard : Heard (n - Header.size) begun.taken e.taken begun.slot e.handler :=
      (hpolls.listens hn (begin_tracks hn h hbegin)).heard
    rw [← (Ask.start_taken hstart).1] at hsettled
    rw [hslot] at hheard
    rw [hend.1, hend.2]
    exact ⟨count, begun, hbegin, takenFor_of_heard hsettled hheard hresponse⟩

end Demand

/-- A caller that was attached before anything was received, and that has made some calls since, however
they ended. -/
inductive Reachable : Caller n δ → Prop where
  | attach {medium : δ} {settings : CallSettings} {c : Caller n δ} : Metered.taken medium = [] →
      (attach n medium settings).result = .ok c → Reachable c
  | call {c c' : Caller n δ} {rounds : Nat} {d : Demand} {result : Except CallError Message} : Reachable c →
      (d.run rounds c).result = .ok (result, c') → Reachable c'
  | configure {c : Caller n δ} (settings : CallSettings) : Reachable c → Reachable { c with settings }

theorem Reachable.tracks (h : c.Reachable) : Header.size < n ∧ c.endpoint.Tracks := by
  induction h with
  | @attach medium settings c hnone hattach =>
    obtain ⟨e, he, hrest⟩ := Run.result_bind_eq_ok.mp hattach
    obtain ⟨hn, rfl⟩ := Endpoint.attach_ok he
    obtain ⟨htaken, hreceived⟩ := Metered.armReceive medium Header.size
    have htracks : ∀ e : Endpoint n δ ResponseSlot, e.reception = .header →
        e.link.medium = Medium.armReceive medium Header.size → e.Tracks := by
      intro e hheader hmedium
      unfold Endpoint.Tracks Endpoint.taken
      rw [hmedium, htaken, hnone, hreceived, parse_unfinished unfinished_nil]
      exact .fresh hheader
    cases hrest
    refine ⟨hn, ?_⟩
    cases settings.dump with
    | true => exact htracks _ rfl rfl
    | false => exact htracks _ rfl rfl
  | call _ hrun ih => exact ⟨ih.1, Demand.run_tracks ih.1 ih.2 hrun⟩
  | configure settings _ ih => exact ih

/-- A call that is given up at its first look at the deadline, and the same call again without one. -/
def callTwice (n rounds : Nat) (medium : δ) (ask : Ask) : Run (Caller n δ × Sight) := do
  let c ← attach n medium {}
  let (_, c) ← (Demand.blocking (.showing fun _ => 1000) ask).run rounds c
  let (looks, begun) ← (Demand.blocking (.showing fun _ => 0) ask).begin rounds c
  let (result, c') ← (Demand.blocking (.showing fun _ => 0) ask).run rounds c
  pure (c, ⟨looks.toOption.map fun _ => begun.taken, result.toOption, c'.taken, c'.slot.ignored⟩)

theorem callTwice_ok {medium : δ} {ask : Ask} {ignored : Counter} {early taken : Bytes} {m : Message}
    (hnone : Metered.taken medium = [])
    (h : (callTwice n rounds medium ask).result.toOption.map Prod.snd = some ⟨some early, some m, taken, ignored⟩) :
    ∃ (c begun c' : Caller n δ) (looks : Nat), c.Reachable ∧
      ((Demand.blocking (.showing fun _ => 0) ask).begin rounds c).result = .ok (.ok looks, begun) ∧
      ((Demand.blocking (.showing fun _ => 0) ask).run rounds c).result = .ok (.ok m, c') ∧
      begun.taken = early ∧ c'.taken = taken ∧ c'.slot.ignored = ignored := by
  obtain ⟨⟨c, sight⟩, hok, rfl⟩ := Option.map_eq_some_iff.mp h
  obtain ⟨c₀, hattach, hrest⟩ := Run.result_bind_eq_ok.mp (Outcomes.toOption_eq_some.mp hok)
  obtain ⟨⟨_, c₁⟩, hfirst, hrest⟩ := Run.result_bind_eq_ok.mp hrest
  obtain ⟨⟨started, begun⟩, hbegin, hrest⟩ := Run.result_bind_eq_ok.mp hrest
  obtain ⟨⟨result, c'⟩, hcall, hlast⟩ := Run.result_bind_eq_ok.mp hrest
  simp only [Run.result_pure, Except.ok.injEq, Prod.mk.injEq, Sight.mk.injEq, Option.map_eq_some_iff,
    Outcomes.toOption_eq_some] at hlast
  obtain ⟨rfl, ⟨looks, rfl, hearly⟩, rfl, htaken, hignored⟩ := hlast
  exact ⟨c₁, begun, c', looks, .call (.attach hnone hattach) hfirst, hbegin, hcall, hearly, htaken, hignored⟩

/-- A line on which the header of a response is late, so that it comes when the second call settles. The
rest of that response follows, and then the response to the second call. -/
def halting : Bench.Script where
  reads := [.fail .wouldBlock, .fail .wouldBlock, .fail .wouldBlock, .bytes [7, 0x81, 0, 0, 1]]
  onFlush := [[], [.bytes [0xaa], .bytes [7, 0x81, 0, 0, 1, 0xbb]]]

theorem callTwice_halting :
    (callTwice 16 10 (⟨⟨halting, []⟩, 0, 0⟩ : StreamMedium (Tap Bench.Script)) (.raw ⟨7, 1, 0, []⟩)).result.toOption.map
        Prod.snd =
      some ⟨some [7, 0x81, 0, 0, 1], some ⟨7, 0x81, 0, [0xaa]⟩,
        [7, 0x81, 0, 0, 1, 0xaa, 7, 0x81, 0, 0, 1, 0xbb], 1⟩ := by
  cbv

end Caller

/-! ## Calls over a stream in time -/

namespace TimedCaller

variable {n : Nat} {τ : Type} [TimedStream τ] {c c' : TimedCaller n (Tap τ)}

/-- A call that returns a message took it from what it heard. -/
theorem call_takes {rounds : Nat} {channel : UInt8} {r : Request} {m : Message} (hn : Header.size < n) (h : c.Tracks)
    (hrun : (c.call rounds channel r).result = .ok (.ok m, c')) :
    ∃ begun, (c.prepare rounds channel r).result = .ok (.ok (), begun) ∧
      TakenFor (n - Header.size) (r.message channel) m c.taken begun.taken c'.taken c.slot.ignored c'.slot.ignored := by
  obtain ⟨early, settled, waited, hhears⟩ := call_hears hn h hrun
  obtain ⟨hresponse, hslot, begun, hprepare, rfl⟩ := hhears.response m rfl
  refine ⟨begun, hprepare, ?_⟩
  rw [hslot]
  exact @takenFor_of_heard _ (r.message channel) m _ _ _ c.slot settled waited hhears.drops hhears.waits hresponse

/-- A caller that was attached before anything was read, and that has made some calls since, however they
ended. -/
inductive Reachable : TimedCaller n (Tap τ) → Prop where
  | attach {stream : Tap τ} {settings : CallSettings} {c : TimedCaller n (Tap τ)} : stream.taken = [] →
      (attach n stream settings).result = .ok c → Reachable c
  | call {c c' : TimedCaller n (Tap τ)} {rounds : Nat} {channel : UInt8} {r : Request}
      {result : Except CallError Message} :
      Reachable c → (c.call rounds channel r).result = .ok (result, c') → Reachable c'

theorem Reachable.tracks (h : c.Reachable) : Header.size < n ∧ c.Tracks := by
  induction h with
  | attach hnone hattach =>
    obtain ⟨hn, hfresh⟩ := attachWith_ok hattach
    exact ⟨hn, hfresh.tracks ((congrArg Tap.taken hfresh.stream).trans hnone)⟩
  | call _ hrun ih =>
    obtain ⟨_, _, _, hhears⟩ := call_hears ih.1 ih.2 hrun
    exact ⟨ih.1, hhears.tracks⟩

/-- A call that is not answered in time, and the same call again. -/
def callTwice (n rounds : Nat) (stream : Tap τ) (settings : CallSettings) (channel : UInt8) (r : Request) :
    Run (TimedCaller n (Tap τ) × Sight) := do
  let c ← attach n stream settings
  let (_, c) ← c.call rounds channel r
  let (started, begun) ← c.prepare rounds channel r
  let (result, c') ← c.call rounds channel r
  pure (c, ⟨started.toOption.map fun _ => begun.taken, result.toOption, c'.taken, c'.slot.ignored⟩)

theorem callTwice_ok {rounds : Nat} {stream : Tap τ} {settings : CallSettings} {channel : UInt8} {r : Request}
    {ignored : Counter} {early taken : Bytes} {m : Message} (hnone : stream.taken = [])
    (h : (callTwice n rounds stream settings channel r).result.toOption.map Prod.snd =
      some ⟨some early, some m, taken, ignored⟩) :
    ∃ c begun c' : TimedCaller n (Tap τ), c.Reachable ∧ (c.prepare rounds channel r).result = .ok (.ok (), begun) ∧
      (c.call rounds channel r).result = .ok (.ok m, c') ∧ begun.taken = early ∧ c'.taken = taken ∧
      c'.slot.ignored = ignored := by
  obtain ⟨⟨c, sight⟩, hok, rfl⟩ := Option.map_eq_some_iff.mp h
  obtain ⟨c₀, hattach, hrest⟩ := Run.result_bind_eq_ok.mp (Outcomes.toOption_eq_some.mp hok)
  obtain ⟨⟨_, c₁⟩, hfirst, hrest⟩ := Run.result_bind_eq_ok.mp hrest
  obtain ⟨⟨started, begun⟩, hprepare, hrest⟩ := Run.result_bind_eq_ok.mp hrest
  obtain ⟨⟨result, c'⟩, hcall, hlast⟩ := Run.result_bind_eq_ok.mp hrest
  simp only [Run.result_pure, Except.ok.injEq, Prod.mk.injEq, Sight.mk.injEq, Option.map_eq_some_iff,
    Outcomes.toOption_eq_some] at hlast
  obtain ⟨rfl, ⟨_, rfl, hearly⟩, rfl, htaken, hignored⟩ := hlast
  exact ⟨c₁, begun, c', .call (.attach hnone hattach) hfirst, hprepare, hcall, hearly, htaken, hignored⟩

/-- A line on which the header of a response comes in time, and the rest of it too late. -/
def halting : Bench.Timetable where
  reads := [⟨5, .bytes [0, 130, 0, 0, 1]⟩, ⟨15, .bytes [0xaa]⟩]

end TimedCaller

/-! ## Which response a call takes -/

/-- A call takes for its response the first frame that is completed after its own frame was started, that
fits, and that is waited for. That frame starts before this moment exactly if a frame was only partly
received then and no other one was completed in between. This holds of a caller over any stream, of one
over any medium as far as complete blocks are concerned, and of one over any stream in time, after any
calls before. -/
theorem response_stale_iff (n rounds : Nat) (m : Message) :
    (∀ {σ : Type} [Stream σ] {c c' : Caller n (StreamMedium (Tap σ))} {d : Caller.Demand},
      c.Reachable → (d.run rounds c).result = .ok (.ok m, c') →
        ∃ count begun, (d.begin rounds c).result = .ok (.ok count, begun) ∧
          TakenFor (n - Header.size) d.ask.message m c.taken begun.taken c'.taken c.slot.ignored c'.slot.ignored) ∧
    (∀ {δ φ : Type} [Medium δ φ] [CallFailure φ] {c c' : Caller n (Meter δ)} {d : Caller.Demand},
      c.Reachable → (d.run rounds c).result = .ok (.ok m, c') →
        ∃ count begun, (d.begin rounds c).result = .ok (.ok count, begun) ∧
          TakenFor (n - Header.size) d.ask.message m c.taken begun.taken c'.taken c.slot.ignored c'.slot.ignored) ∧
    (∀ {τ : Type} [TimedStream τ] {c c' : TimedCaller n (Tap τ)} {channel : UInt8} {r : Request},
      c.Reachable → (c.call rounds channel r).result = .ok (.ok m, c') →
        ∃ begun, (c.prepare rounds channel r).result = .ok (.ok (), begun) ∧
          TakenFor (n - Header.size) (r.message channel) m c.taken begun.taken c'.taken c.slot.ignored
            c'.slot.ignored) := by
  refine ⟨?_, ?_, ?_⟩
  · intro σ _ c c' d hreachable hrun
    exact Caller.Demand.run_takes hreachable.tracks.1 hreachable.tracks.2 hrun
  · intro δ φ _ _ c c' d hreachable hrun
    exact Caller.Demand.run_takes hreachable.tracks.1 hreachable.tracks.2 hrun
  · intro τ _ c c' channel r hreachable hrun
    exact TimedCaller.call_takes hreachable.tracks.1 hreachable.tracks.2 hrun

/-- A response of which the header had been received, over a stream, over the same stream as a medium, and
over a stream in time. -/
theorem response_stale_iff_halting :
    (∃ c begun c' : Caller 16 (StreamMedium (Tap Bench.Script)), c.Reachable ∧ begun.taken = [7, 0x81, 0, 0, 1] ∧
      TakenFor 11 ⟨7, 1, 0, []⟩ ⟨7, 0x81, 0, [0xaa]⟩ c.taken begun.taken c'.taken c.slot.ignored 1) ∧
    (∃ c begun c' : Caller 16 (Meter (StreamMedium Bench.Script)), c.Reachable ∧ begun.taken = [7, 0x81, 0, 0, 1] ∧
      TakenFor 11 ⟨7, 1, 0, []⟩ ⟨7, 0x81, 0, [0xaa]⟩ c.taken begun.taken c'.taken c.slot.ignored 1) ∧
    (∃ c begun c' : TimedCaller 16 (Tap Bench.Timetable), c.Reachable ∧ begun.taken = [0, 130, 0, 0, 1] ∧
      TakenFor 11 ⟨0, 2, 0, []⟩ ⟨0, 130, 0, [0xaa]⟩ c.taken begun.taken c'.taken c.slot.ignored 0) := by
  refine ⟨?_, ?_, ?_⟩
  · obtain ⟨c, begun, c', looks, hreachable, hbegin, hcall, hearly, _, hignored⟩ :=
      Caller.callTwice_ok rfl Caller.callTwice_halting
    obtain ⟨_, _, hbegin', htaken⟩ := (response_stale_iff 16 10 _).1 hreachable hcall
    cases hbegin.symm.trans hbegin'
    exact ⟨c, begun, c', hreachable, hearly, hignored ▸ htaken⟩
  · have hseen : (Caller.callTwice 16 10 (⟨⟨Caller.halting, 0, 0⟩, []⟩ : Meter (StreamMedium Bench.Script))
        (.raw ⟨7, 1, 0, []⟩)).result.toOption.map Prod.snd = some ⟨some [7, 0x81, 0, 0, 1], some ⟨7, 0x81, 0, [0xaa]⟩,
          [7, 0x81, 0, 0, 1, 0xaa, 7, 0x81, 0, 0, 1, 0xbb], 1⟩ := by cbv
    obtain ⟨c, begun, c', looks, hreachable, hbegin, hcall, hearly, _, hignored⟩ := Caller.callTwice_ok rfl hseen
    obtain ⟨_, _, hbegin', htaken⟩ := (response_stale_iff 16 10 _).2.1 hreachable hcall
    cases hbegin.symm.trans hbegin'
    exact ⟨c, begun, c', hreachable, hearly, hignored ▸ htaken⟩
  · have hseen : (TimedCaller.callTwice 16 10 ⟨TimedCaller.halting, []⟩ { timeout := ⟨10⟩ } 0
        .firmwareVersion).result.toOption.map Prod.snd = some ⟨some [0, 130, 0, 0, 1], some ⟨0, 130, 0, [0xaa]⟩,
          [0, 130, 0, 0, 1, 0xaa], 0⟩ := by cbv
    obtain ⟨c, begun, c', hreachable, hprepare, hcall, hearly, _, hignored⟩ := TimedCaller.callTwice_ok rfl hseen
    obtain ⟨_, hprepare', htaken⟩ := (response_stale_iff 16 10 _).2.2 hreachable hcall
    cases hprepare.symm.trans hprepare'
    exact ⟨c, begun, c', hreachable, hearly, hignored ▸ htaken⟩

/-- A call can return a message whose header was received before its own frame was started. Here it is the
late response to the call before, and the response to the call itself is ignored. -/
theorem Caller.late_response_taken : ∃ (c begun c' : Caller 16 (StreamMedium (Tap Bench.Script)))
    (looks : Nat), c.Reachable ∧
    ((Demand.blocking (.showing fun _ => 0) (.raw ⟨7, 1, 0, []⟩)).begin 10 c).result = .ok (.ok looks, begun) ∧
    ((Demand.blocking (.showing fun _ => 0) (.raw ⟨7, 1, 0, []⟩)).run 10 c).result =
      .ok (.ok ⟨7, 0x81, 0, [0xaa]⟩, c') ∧
    begun.taken = [7, 0x81, 0, 0, 1] ∧ c'.taken = [7, 0x81, 0, 0, 1, 0xaa] ++ [7, 0x81, 0, 0, 1, 0xbb] ∧
    (⟨7, 0x81, 0, [0xaa]⟩ : Message).frame = [7, 0x81, 0, 0, 1, 0xaa] ∧ c'.slot.ignored = 1 := by
  obtain ⟨c, begun, c', looks, hreachable, hbegin, hcall, hearly, htaken, hignored⟩ :=
    callTwice_ok rfl callTwice_halting
  exact ⟨c, begun, c', looks, hreachable, hbegin, hcall, hearly, htaken, rfl, hignored⟩

end BusBridge

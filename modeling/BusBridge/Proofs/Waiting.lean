import BusBridge.Proofs.Sequential
import BusBridge.Proofs.Watching
/-!
# What waits while a bus is read

A turn of serving writes the frame that is armed and then reads a block. A handler that is told that its frame was
sent may start another one right then, after the write of the turn and before its read. Such a frame waits on the
link while the bus is read, and is written in the next turn, if there is one.

`Serving.reads_armed_iff` says when that happens. At the start of a read all frames that were started are
written and flushed, except for one: the frame that was started when the last one was reported as sent. No
other frame ever waits, and this one is written before the block after next is read. So a handler that starts
nothing when it is told so, like a router, never keeps a frame waiting, and one that does may lose it
(`Serving.queued_frame_left`).
-/

namespace BusBridge.Serving

open Transfer

variable {σ η : Type} {n : Nat} [Handler η]

/-- The frames started so far, `initial` before them, are what was written and what is armed. The last occasion of
the handler left the link as it is. -/
structure Accounts (initial : Bytes) (bus : Tap σ) (e : Endpoint n Detached (Watched η)) : Prop where
  frames : initial ++ e.handler.started.flatten = bus.given ++ e.link.armed?.getD []
  flushed : unflushed bus.history = []
  last : ∀ o, e.handler.log.getLast? = some o → o.left = e.link.armed?

section Steps

variable {initial : Bytes} {bus bus' : Tap σ} {e e' : Endpoint n Detached (Watched η)}

/-- A message may start a frame, if none is armed. One that is armed stays. -/
theorem Accounts.message [UsesLink η] (h : Accounts initial bus e) {m : Message} {handler : Watched η}
    {link : Link n Detached} (honMessage : (Handler.onMessage e.handler m e.link).result = .ok (handler, link)) :
    initial ++ handler.started.flatten = bus.given ++ link.armed?.getD [] ∧
      (∀ o, handler.log.getLast? = some o → o.left = link.armed?) ∧
      ∀ frame, e.link.armed? = some frame → link.armed? = some frame := by
  obtain ⟨hinner, hlog⟩ := Watched.onMessage_ok honMessage
  have hkept : ∀ frame, e.link.armed? = some frame → link.armed? = some frame := by
    intro frame hframe
    rw [(UsesLink.onMessage hinner).armed hframe]
    exact hframe
  refine ⟨?_, ?_, hkept⟩
  · have hframes := h.frames
    rw [Watched.started, hlog, List.filterMap_append, List.flatten_append, ← List.append_assoc]
    cases hframe : e.link.armed? with
    | some frame =>
      rw [hframe] at hframes
      rw [hkept frame hframe]
      exact (List.append_nil _).trans hframes
    | none =>
      rw [hframe, Option.getD_none, List.append_nil] at hframes
      rw [show initial ++ (e.handler.log.filterMap Occasion.started).flatten = bus.given from hframes]
      cases link.armed? with
      | none => rfl
      | some frame => simp [Occasion.started]
  · intro o ho
    rw [hlog, List.getLast?_append] at ho
    cases ho
    rfl

variable [Stream σ]

/-- An emission writes what is armed. What is armed then was started by the report that it made. -/
theorem Accounts.emission (h : Accounts initial bus e) (hrun : (emission bus e).result = .ok (.ok (), bus', e')) :
    Accounts initial bus' e' ∧ bus'.given = bus.given ++ e.link.armed?.getD [] ∧
      (e'.link.armed?.isSome ↔ ∃ o, e'.handler.log.getLast? = some o ∧ o.message = none ∧ o.left.isSome) := by
  cases emits_of_emission hrun with
  | idle harmed =>
    refine ⟨h, by rw [harmed, Option.getD_none, List.append_nil], ?_⟩
    constructor
    · intro hsome
      rw [harmed] at hsome
      cases hsome
    · rintro ⟨o, hlast, _, hleft⟩
      rw [← h.last o hlast]
      exact hleft
  | @frame bus' pieces handler link harmed hhistory honSent =>
    obtain ⟨_, hgiven, hflushed⟩ := Tap.history_given hhistory
    obtain ⟨_, hlog⟩ := Watched.onSent_ok honSent
    have hlast : handler.log.getLast? = some ⟨none, e.handler.handler, handler.handler, none, link.armed?⟩ := by
      rw [hlog, List.getLast?_append]
      rfl
    have hwritten := h.frames
    rw [harmed, Option.getD_some, ← hgiven] at hwritten
    refine ⟨⟨?_, hflushed, ?_⟩, by rw [harmed, Option.getD_some]; exact hgiven, ?_⟩
    · have hstarted : handler.started = e.handler.started ++ link.armed?.toList := by
        rw [Watched.started, hlog, List.filterMap_append]
        cases link.armed? <;> rfl
      rw [hstarted, List.flatten_append, ← List.append_assoc, hwritten]
      cases link.armed? with
      | none => rfl
      | some frame => simp
    · intro o ho
      rw [hlast] at ho
      cases ho
      rfl
    · constructor
      · intro hsome
        exact ⟨_, hlast, rfl, hsome⟩
      · rintro ⟨o, ho, _, hleft⟩
        rw [hlast] at ho
        cases ho
        exact hleft

/-- A reception leaves the accounts as a message does. -/
theorem Accounts.reception [UsesLink η] (h : Accounts initial bus e)
    (hrun : (reception bus e).result = .ok (.ok (), bus', e')) :
    Accounts initial bus' e' ∧ bus'.given = bus.given ∧
      ∀ frame, e.link.armed? = some frame → e'.link.armed? = some frame := by
  obtain ⟨pieces, hhistory, _, htakes⟩ := takes_of_reception hrun
  obtain ⟨_, hgiven, hflushed⟩ := Tap.history_taken hhistory
  rw [h.flushed] at hflushed
  cases htakes with
  | block hfull hreport =>
    obtain ⟨delivered, hhands⟩ := Endpoint.handsOver_of_blockReceived hreport
    cases hhands with
    | nothing hhandler hlink =>
      have harmed : e'.link.armed? = e.link.armed? := congrArg Link.armed? hlink
      have hsame : e'.handler = e.handler := hhandler
      refine ⟨⟨?_, hflushed, ?_⟩, hgiven, fun frame hframe => harmed.trans hframe⟩
      · rw [hsame, harmed, hgiven]
        exact h.frames
      · intro o ho
        rw [hsame] at ho
        rw [harmed]
        exact h.last o ho
    | message honMessage hhandler hlink =>
      obtain ⟨hframes, hlast, hkept⟩ := h.message honMessage
      have harmed : e'.link.armed? = _ := congrArg Link.armed? hlink
      rw [← hgiven] at hframes
      refine ⟨⟨?_, hflushed, ?_⟩, hgiven, fun frame hframe => harmed.trans (hkept frame hframe)⟩
      · rw [hhandler, harmed]
        exact hframes
      · intro o ho
        rw [hhandler] at ho
        rw [harmed]
        exact hlast o ho

theorem Accounts.turn [UsesLink η] {s s' : Tap σ × Endpoint n Detached (Watched η)} (h : Accounts initial s.1 s.2)
    (hrun : (turn s).result = .ok (.again s')) : Accounts initial s'.1 s'.2 := by
  obtain ⟨bus, e, hemission, hreception⟩ := turn_again hrun
  exact ((h.emission hemission).1.reception hreception).1

end Steps

/-- While an endpoint serves a bus, a read starts at the second pair. -/
def StartsReading [Stream σ] (s s' : σ × Endpoint n Detached η) : Prop :=
  ∃ count s₁, Run.Turns turn s count s₁ ∧ (emission s₁.1 s₁.2).result = .ok (.ok (), s'.1, s'.2)

/-- When a read starts, the frames that were started are all written and flushed, except for the one that is
armed. There is one exactly if the last thing that happened to the handler was the report of a sent frame, and
it started the next one then; so there is none if the handler starts nothing on such reports. The one that is
armed is written before the read after this one starts. -/
theorem reads_armed_iff [Stream σ] [UsesLink η] {bus : σ} {e e₁ : Endpoint n Detached (Watched η)} {bus₁ : Tap σ}
    (hnew : e.handler.log = []) (hread : StartsReading ((⟨bus, []⟩ : Tap σ), e) (bus₁, e₁)) :
    e.link.armed?.getD [] ++ e₁.handler.started.flatten = bus₁.given ++ e₁.link.armed?.getD [] ∧
    unflushed bus₁.history = [] ∧
    (e₁.link.armed?.isSome ↔ ∃ o, e₁.handler.log.getLast? = some o ∧ o.message = none ∧ o.left.isSome) ∧
    ((∀ (h h' : η) (l l' : Link n Detached), l.sending = none → (Handler.onSent h l).result = .ok (h', l') →
      l'.sending = none) → e₁.link.armed? = none) ∧
    ∀ frame bus₂ e₂ bus₃ e₃, e₁.link.armed? = some frame →
      (reception bus₁ e₁).result = .ok (.ok (), bus₂, e₂) → (emission bus₂ e₂).result = .ok (.ok (), bus₃, e₃) →
      bus₃.given = bus₁.given ++ frame := by
  obtain ⟨count, s, hturns, hemission⟩ := hread
  have hstart : Accounts (e.link.armed?.getD []) (⟨bus, []⟩ : Tap σ) e := by
    refine ⟨?_, rfl, ?_⟩
    · rw [Watched.started, hnew]
      exact List.append_nil _
    · intro o ho
      rw [hnew] at ho
      cases ho
  have hbefore : Accounts (e.link.armed?.getD []) s.1 s.2 :=
    hturns.keeps (fun s => Accounts (e.link.armed?.getD []) s.1 s.2) (fun _ _ h hturn => h.turn hturn) hstart
  obtain ⟨haccounts, _, hiff⟩ := hbefore.emission hemission
  refine ⟨haccounts.frames, haccounts.flushed, hiff, ?_, ?_⟩
  · intro hquiet
    cases emits_of_emission hemission with
    | idle harmed => exact harmed
    | frame _ _ honSent => exact Link.armed?_idle (hquiet _ _ _ _ rfl (Watched.onSent_ok honSent).1)
  · intro frame bus₂ e₂ bus₃ e₃ hframe hreception hemission₂
    obtain ⟨haccounts₂, hgiven₂, hkept⟩ := haccounts.reception hreception
    obtain ⟨_, hgiven₃, _⟩ := haccounts₂.emission hemission₂
    rw [hgiven₃, hgiven₂, hkept frame hframe, Option.getD_some]

/-! ## A frame that is left waiting -/

/-- An endpoint whose handler echoes a message, and sends a frame of its own when the echo was sent. -/
def echoing : Endpoint 16 Detached (Watched Bench.Listener) :=
  ⟨.idle ⟨⟩, .zeroed 16, .header, ⟨.recorder ⟨true, [[1, 1, 0, 0, 0]]⟩, []⟩, 0⟩

/-- A bus with a single frame. -/
def oneFrame : Tap SlowBus :=
  ⟨⟨[7, 1, 0, 0, 0], 4⟩, []⟩

/-- The second turn of serving, up to its read. -/
def secondWrite : Run (Except ServingEnd Unit × Tap SlowBus × Endpoint 16 Detached (Watched Bench.Listener)) := do
  match ← turn (oneFrame, echoing) with
  | .again s => emission s.1 s.2
  | .done (stop, bus, e) => pure (.error stop, bus, e)

theorem echoing_reads : ∃ bus₁ e₁, StartsReading (oneFrame, echoing) (bus₁, e₁) ∧
    e₁.link.armed? = some [1, 1, 0, 0, 0] := by
  have hrun : secondWrite.result.toOption.map (fun r => (r.1.toOption, r.2.2.link.armed?)) =
      some (some (), some [1, 1, 0, 0, 0]) := by cbv
  obtain ⟨⟨result, bus₁, e₁⟩, hok, hvalue⟩ := Option.map_eq_some_iff.mp hrun
  obtain ⟨hresult, harmed⟩ := Prod.mk.inj hvalue
  have hresult : result = .ok () := Outcomes.toOption_eq_some.mp hresult
  subst hresult
  obtain ⟨t, hturn, hwrite⟩ := Run.result_bind_eq_ok.mp (Outcomes.toOption_eq_some.mp hok)
  cases t with
  | done r => cases hwrite
  | again s => exact ⟨bus₁, e₁, ⟨1, s, .again .start hturn, hwrite⟩, harmed⟩

theorem reads_armed_iff_echoing : echoing.handler.log = [] ∧
    ∃ bus₁ e₁, StartsReading (oneFrame, echoing) (bus₁, e₁) ∧
      e₁.handler.started.flatten = bus₁.given ++ [1, 1, 0, 0, 0] ∧ unflushed bus₁.history = [] ∧
      ∃ o, e₁.handler.log.getLast? = some o ∧ o.message = none ∧ o.left.isSome := by
  obtain ⟨bus₁, e₁, hread, harmed⟩ := echoing_reads
  obtain ⟨hframes, hflushed, hiff, _⟩ := reads_armed_iff rfl hread
  rw [harmed] at hframes hiff
  exact ⟨rfl, bus₁, e₁, hread, hframes, hflushed, hiff.mp rfl⟩

/-- A read starts while a frame waits, and the bus ends with it: the frame is never written. -/
theorem queued_frame_left : ∃ bus₁ e₁ bus' e', StartsReading (oneFrame, echoing) (bus₁, e₁) ∧
    e₁.link.armed? = some [1, 1, 0, 0, 0] ∧
    (serve 3 oneFrame echoing).result = .ok (.closed, bus', e') ∧
    bus'.given = [7, 129, 0, 0, 0] ∧ e'.link.armed? = some [1, 1, 0, 0, 0] := by
  obtain ⟨bus₁, e₁, hread, harmed⟩ := echoing_reads
  have hrun : (serve 3 oneFrame echoing).result.toOption.map
      (fun r => (r.1, r.2.1.given, r.2.2.link.armed?)) =
      some (.closed, [7, 129, 0, 0, 0], some [1, 1, 0, 0, 0]) := by cbv
  obtain ⟨⟨stop, bus', e'⟩, hok, hvalue⟩ := Option.map_eq_some_iff.mp hrun
  simp only [Prod.mk.injEq] at hvalue
  obtain ⟨rfl, hgiven, hleft⟩ := hvalue
  exact ⟨bus₁, e₁, bus', e', hread, harmed, Outcomes.toOption_eq_some.mp hok, hgiven, hleft⟩

end BusBridge.Serving

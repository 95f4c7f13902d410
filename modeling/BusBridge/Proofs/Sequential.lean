import Mathlib
import BusBridge.Bench.Device
import BusBridge.Proofs.Dispatch
import BusBridge.Proofs.Serving
/-!
# Serving is one request after the other

A bridge that is served answers as if it had no line at all: take the requests out of the bytes that came in,
dispatch one after the other, each on an idle link, and write down the responses. `Session` is that, and it
is only a fold of `Router.dispatch`. `Serving.serve_sequential` says that serving comes to the same on every
bus that does not fail, however it cuts what it hands over and takes. The frames that are too long are
skipped and counted, no request ever meets a busy link, and the serving ends when the bytes do.

The order on the bus is a part of the statement. Whenever something is taken from it, all requests that are
complete by then have been answered, and the answers are written and flushed (`Session.Answered`).

The argument is one invariant, `Serving.Serves`, on what has been taken and given so far. It is kept by an
emission and by a reception, and the bytes that are left bound the number of turns.

**What it does not establish.** What a single dispatch does with a request is not said here, and nothing is
said of a bus that fails.
-/

namespace BusBridge

open Framing Transfer

/-- A router that is given one request after the other, with the frames of its responses. -/
structure Session (n : Nat) (κ : Type) where
  router : Router κ
  link : Link n Detached
  sent : List Bytes := []

namespace Session

variable {n : Nat} {κ : Type} [Service κ]

/-- Dispatch a request, and have its response sent so that the link is idle again. -/
def take (s : Session n κ) (m : Message) : Run (Session n κ) := do
  let (router, link) ← s.router.dispatch m s.link
  pure ⟨router, { link with sending := none }, s.sent ++ link.armed?.toList⟩

def takeAll (s : Session n κ) (requests : List Message) : Run (Session n κ) :=
  requests.foldlM take s

/-- One more request. -/
theorem takeAll_snoc {s s₁ : Session n κ} {requests : List Message} (h : (s.takeAll requests).result = .ok s₁)
    (m : Message) : (s.takeAll (requests ++ [m])).result = (s₁.take m).result := by
  rw [takeAll, List.foldlM_append, Run.result_bind]
  unfold takeAll at h
  rw [h, Outcomes.ok_bind, List.foldlM_cons, Run.result_bind]
  cases (s₁.take m).result with
  | error fault => rfl
  | ok s₂ => rfl

/-- On an idle link no request is an overrun. -/
theorem takeAll_overrun (hn : Header.size < n) {s s' : Session n κ} {requests : List Message}
    (hidle : s.link.sending = none) (h : (s.takeAll requests).result = .ok s') :
    s'.router.tally.overrun = s.router.tally.overrun := by
  induction requests generalizing s with
  | nil =>
    cases h
    rfl
  | cons m rest ih =>
    rw [takeAll, List.foldlM_cons] at h
    obtain ⟨s₁, hfirst, hrest⟩ := Run.result_bind_eq_ok.mp h
    obtain ⟨⟨router, link⟩, hdispatch, hlast⟩ := Run.result_bind_eq_ok.mp hfirst
    cases hlast
    obtain ⟨router', link', hresult, hsettles⟩ := s.router.dispatch_settles m s.link hn
    cases hresult.symm.trans hdispatch
    have hone : router.tally.overrun = s.router.tally.overrun := by
      cases hsettles with
      | overrun _ hbusy =>
        rw [Link.isBusy, hidle] at hbusy
        cases hbusy
      | unknownComponent | unknownOperation | response | unsent => rfl
    exact (ih rfl hrest).trans hone

/-- All requests that were complete by the end of a log were answered in it, and nothing waits to be flushed. -/
def Answered (start : Session n κ) (log : List Transfer) : Prop :=
  ∃ s, (start.takeAll (fitting (n - Header.size) (inflow log))).result = .ok s ∧ outflow log = s.sent.flatten ∧
    unflushed log = []

/-- Whenever something was taken, the requests before it had been answered. -/
def Prompt (start : Session n κ) (log : List Transfer) : Prop :=
  ∀ past piece later, log = past ++ .taken piece :: later → start.Answered past

theorem Prompt.append {start : Session n κ} {log more : List Transfer} (h : start.Prompt log)
    (hmore : ∀ early piece late, more = early ++ .taken piece :: late → start.Answered (log ++ early)) :
    start.Prompt (log ++ more) := by
  intro past piece later hsplit
  obtain ⟨early, hpast, hlate⟩ | ⟨rest, hlog, hrest⟩ := List.append_eq_append_iff.mp hsplit
  · rw [hpast]
    exact hmore early piece later hlate
  · cases rest with
    | nil =>
      rw [List.append_nil] at hlog
      have hpast := hmore [] piece later hrest.symm
      rwa [List.append_nil, hlog] at hpast
    | cons first rest =>
      rw [List.cons_append, List.cons.injEq] at hrest
      rw [← hrest.1] at hlog
      exact h past piece rest hlog

end Session

/-- A bus that hands over and takes at most `most + 1` bytes at a time. -/
structure SlowBus where
  bytes : Bytes
  most : Nat

instance : Stream SlowBus where
  read b want := (.ok (b.bytes.take (min want (b.most + 1))), { b with bytes := b.bytes.drop (min want (b.most + 1)) })
  write b bytes := (.ok (min bytes.length (b.most + 1)), b)
  flush b := pure (.ok (), b)

theorem SlowBus.supplies : Stream.Supplies SlowBus.bytes where
  read b want hwant := by
    refine ⟨_, _, rfl, ?_, List.take_append_drop _ _, ?_⟩
    · exact Nat.le_trans (List.length_take_le _ _) (Nat.min_le_left _ _)
    · intro hnil
      rw [List.take_eq_nil_iff] at hnil
      rcases hnil with hzero | hnone
      · omega
      · exact hnone
  write b bytes hbytes := by
    have hpos := List.length_pos_iff.mpr hbytes
    exact ⟨_, _, rfl, by omega, rfl⟩
  flush b := ⟨rfl, rfl⟩

namespace Serving

variable {σ κ : Type} {n : Nat} [Service κ] {start : Session n κ} {bus bus' : Tap σ}
  {e e' : Endpoint n Detached (Router κ)} {received : Nat}

/-- The endpoint and the bus are where the session is that was given the requests taken so far. The frame of
the last response may still be armed. -/
structure Serves (start : Session n κ) (bus : Tap σ) (e : Endpoint n Detached (Router κ)) (received : Nat) : Prop where
  holds : e.Holds received (parse bus.taken).2
  oversized : e.oversized = .of (excess e.capacity bus.taken).length
  session : ∃ s, (start.takeAll (fitting e.capacity bus.taken)).result = .ok s ∧ e.handler = s.router ∧
    { e.link with sending := none } = s.link ∧ bus.given ++ e.link.armed?.getD [] = s.sent.flatten
  flushed : unflushed bus.history = []
  prompt : start.Prompt bus.history

/-- Bytes that do not complete the armed block are more of the frame. -/
theorem Serves.holds_open (h : Serves start bus e 0) (hn : Header.size < n) {data : Bytes}
    (hopen : data.length < e.armedSize) : (e.store 0 data).Holds (0 + data.length) ((parse bus.taken).2 ++ data) :=
  h.holds.arrive (Endpoint.arrives_store (h.holds.room hn) (by omega)) (by omega)

/-- They complete no request, -/
theorem Serves.fitting_open (h : Serves start bus e 0) (hn : Header.size < n) {data : Bytes}
    (hopen : data.length < e.armedSize) :
    fitting e.capacity (bus.taken ++ data) = fitting e.capacity bus.taken := by
  rw [fitting_append, fitting_unfinished _ (h.holds_open hn hopen).unfinished, List.append_nil]

/-- and they declare no length. -/
theorem Serves.excess_open (h : Serves start bus e 0) (hn : Header.size < n) {data : Bytes}
    (hopen : data.length < e.armedSize) : excess e.capacity (bus.taken ++ data) = excess e.capacity bus.taken := by
  have hgrows : excess e.capacity (bus.taken ++ data) = excess e.capacity bus.taken ++ [] := by
    apply excess_grows
    rw [excess_unfinished _ (h.holds_open hn hopen).unfinished, excess_unfinished _ (unfinished_parse _),
      h.holds.declared?_store (by omega), List.append_nil]
  rw [hgrows, List.append_nil]

/-- With an idle link all requests are answered, also while the armed block arrives. -/
theorem Serves.answered (h : Serves start bus e 0) (hn : Header.size < n) (hidle : e.link.sending = none)
    {pieces : List Bytes} (hopen : pieces.flatten.length < e.armedSize) :
    start.Answered (bus.history ++ pieces.map .taken) := by
  obtain ⟨s, hs, _, _, hgiven⟩ := h.session
  rw [Link.armed?_idle hidle, Option.getD_none, List.append_nil] at hgiven
  refine ⟨s, ?_, ?_, ?_⟩
  · rw [inflow_append, inflow_taken]
    exact h.fitting_open hn hopen ▸ hs
  · rw [outflow_append, outflow_taken, List.append_nil]
    exact hgiven
  · rw [unflushed_taken]
    exact h.flushed

/-- A message that reaches the router is the next one of the session. -/
theorem Serves.session_message (h : Serves start bus e 0) (hidle : e.link.sending = none) {m : Message}
    {router : Router κ} {link : Link n Detached}
    (hrun : (Handler.onMessage e.handler m e.link).result = .ok (router, link)) :
    ∃ s, (start.takeAll (fitting e.capacity bus.taken ++ [m])).result = .ok s ∧ router = s.router ∧
      { link with sending := none } = s.link ∧ bus.given ++ link.armed?.getD [] = s.sent.flatten := by
  obtain ⟨s, hs, hrouter, hlink, hsent⟩ := h.session
  have hsame : e.link = s.link := by
    rw [← hlink]
    rcases e with ⟨⟨medium, buffer, sending, dump⟩, inbox, reception, handler, oversized⟩
    cases hidle
    rfl
  have hdispatch : (s.router.dispatch m s.link).result = .ok (router, link) := by
    rw [← hrouter, ← hsame]
    exact hrun
  refine ⟨⟨router, { link with sending := none }, s.sent ++ link.armed?.toList⟩, ?_, rfl, rfl, ?_⟩
  · rw [Session.takeAll_snoc hs, Session.take, Run.result_bind, hdispatch]
    rfl
  · rw [Link.armed?_idle hidle, Option.getD_none, List.append_nil] at hsent
    rw [hsent, List.flatten_append]
    cases link.armed? with
    | none => rfl
    | some frame => simp

/-- So the session goes on with what a report hands over. -/
theorem Serves.session_report (h : Serves start bus e 0) (hidle : e.link.sending = none) {data : Bytes}
    {delivered : List Message} (hhands : (e.store 0 data).HandsOver e' delivered) :
    ∃ s, (start.takeAll (fitting e.capacity bus.taken ++ delivered)).result = .ok s ∧ e'.handler = s.router ∧
      { e'.link with sending := none } = s.link ∧ bus.given ++ e'.link.armed?.getD [] = s.sent.flatten := by
  cases hhands with
  | nothing hhandler hlink' =>
    obtain ⟨s, hs, hrouter, hlink, hsent⟩ := h.session
    rw [List.append_nil, hlink']
    exact ⟨s, hs, hhandler.trans hrouter, hlink, hsent⟩
  | message honMessage hhandler hlink' =>
    obtain ⟨s, hs, hrouter, hlink, hsent⟩ := h.session_message hidle honMessage
    rw [hlink']
    exact ⟨s, hs, hhandler.trans hrouter, hlink, hsent⟩

/-- Pieces that are taken one by one, each while the armed block is open, are taken when everything is answered. -/
theorem Serves.prompt_taken (h : Serves start bus e 0) (hn : Header.size < n) (hidle : e.link.sending = none)
    {pieces : List Bytes}
    (hopen : ∀ first piece rest, pieces = first ++ piece :: rest → first.flatten.length < e.armedSize) :
    start.Prompt (bus.history ++ pieces.map .taken) := by
  apply h.prompt.append
  intro early piece late hsplit
  obtain ⟨first, rest, hpieces, rfl, hlate⟩ := List.map_eq_append_iff.mp hsplit
  obtain ⟨middle, last, rfl, _⟩ := List.map_eq_cons_iff.mp hlate
  exact h.answered hn hidle (hopen first middle last hpieces)

variable [Stream σ]

/-- After an emission the link is idle, and the response that waited is on the bus. -/
theorem Serves.emission (h : Serves start bus e 0) (hrun : (emission bus e).result = .ok (.ok (), bus', e')) :
    Serves start bus' e' 0 ∧ e'.link.sending = none ∧ bus'.taken = bus.taken := by
  cases emits_of_emission hrun with
  | idle harmed =>
    refine ⟨h, ?_, rfl⟩
    rw [Link.armed?, Option.map_eq_none_iff] at harmed
    exact harmed
  | @frame bus' pieces handler link harmed hhistory honSent =>
    cases honSent
    obtain ⟨htaken, hgiven, hflushed⟩ := Tap.history_given hhistory
    obtain ⟨s, hs, hrouter, hlink, hsent⟩ := h.session
    refine ⟨⟨?_, ?_, ⟨s, ?_, hrouter, hlink, ?_⟩, hflushed, ?_⟩, rfl, htaken⟩
    · rw [htaken]
      exact h.holds.congr rfl rfl
    · rw [htaken]
      exact h.oversized
    · rw [htaken]
      exact hs
    · rw [harmed] at hsent
      rw [hgiven]
      exact (List.append_nil _).trans hsent
    · rw [hhistory, List.append_assoc]
      apply h.prompt.append
      intro early piece late hsplit
      -- nothing is taken during an emission
      have hmem : .taken piece ∈ pieces.map Transfer.given ++ [.flushed] := by
        rw [hsplit]
        exact List.mem_append_right _ List.mem_cons_self
      simp at hmem

/-- A reception that finds the link idle takes bytes in front of which everything is answered. It completes a
block, with which a request may reach the router, or it stops inside the block. -/
theorem Serves.reception (h : Serves start bus e 0) (hn : Header.size < n) (hidle : e.link.sending = none)
    {result : Except ServingEnd Unit} (hrun : (reception bus e).result = .ok (result, bus', e')) :
    (result = .ok () ∧ Serves start bus' e' 0) ∨
      (result ≠ .ok () ∧ e'.link.sending = none ∧ ∃ received, Serves start bus' e' received) := by
  obtain ⟨pieces, hhistory, hopen, htakes⟩ := takes_of_reception hrun
  obtain ⟨htaken, hgiven, hflushed⟩ := Tap.history_taken hhistory
  rw [h.flushed] at hflushed
  have hprompt : start.Prompt bus'.history := by
    rw [hhistory]
    exact h.prompt_taken hn hidle hopen
  cases htakes with
  | stop hshort =>
    obtain ⟨s, hs, hrouter, hlink, hsent⟩ := h.session
    refine .inr ⟨by simp, hidle, 0 + pieces.flatten.length, ?_, ?_, ⟨s, ?_, hrouter, hlink, ?_⟩, hflushed, hprompt⟩
    · rw [htaken, parse_append, parse_unfinished (h.holds_open hn hshort).unfinished]
      exact h.holds_open hn hshort
    · rw [htaken]
      exact (h.excess_open hn hshort).symm ▸ h.oversized
    · rw [htaken]
      exact (h.fitting_open hn hshort).symm ▸ hs
    · rw [hgiven]
      exact hsent
  | @block report e' hfull hreport =>
    have hstored : e.Arrives (e.store 0 pieces.flatten) 0 pieces.flatten :=
      Endpoint.arrives_store (h.holds.room hn) (by omega)
    obtain ⟨delivered, late, hadvances⟩ := (Endpoint.reports_of_filled h.holds hn hstored (by omega) hreport).advance
    have hfitting : fitting e.capacity (bus.taken ++ pieces.flatten) = fitting e.capacity bus.taken ++ delivered := by
      rw [fitting_append, ← hadvances.fitting]
      rfl
    have hcount : e'.oversized = .of ((excess e.capacity bus.taken).length + late.length) := by
      rw [← Counter.of_plus, ← h.oversized]
      exact hadvances.oversized
    refine .inl ⟨rfl, ?_, ?_, ?_, hflushed, hprompt⟩
    · rw [htaken]
      exact hadvances.holds
    · rw [htaken, hcount, ← List.length_append]
      exact congrArg (fun lengths => Counter.of lengths.length) hadvances.excess.symm
    · rw [htaken, hgiven]
      exact hfitting ▸ h.session_report hidle hadvances.handsOver

/-! ## Until the bytes are used up -/

/-- On a bus that does not fail, serving closes when the bytes that are left are used up. Each turn takes at
least one of them. -/
theorem Serves.closes {left : σ → Bytes} (hbus : Stream.Supplies left) (hn : Header.size < n) {turns : Nat}
    (h : Serves start bus e 0) (hturns : (left bus.stream).length < turns) :
    ∃ bus' e' received, (serve turns bus e).result = .ok (.closed, bus', e') ∧ Serves start bus' e' received ∧
      e'.link.sending = none ∧ bus'.taken = bus.taken ++ left bus.stream := by
  induction turns generalizing bus e with
  | zero => exact absurd hturns (Nat.not_lt_zero _)
  | succ turns ih =>
    obtain ⟨bus₁, e₁, hemission, hleft₁⟩ := emission_supplied hbus bus (Endpoint.blockSent_returns Router.returns hn e)
    obtain ⟨h₁, hidle, htaken₁⟩ := h.emission hemission
    obtain ⟨bus₂, e₂, hreception, htaken₂, hleft₂⟩ :=
      reception_supplied hbus bus₁ fun data => Endpoint.blockReceived_returns Router.returns hn (e₁.store 0 data)
    rw [hleft₁] at hreception htaken₂ hleft₂
    have hpos := h₁.holds.received_lt
    have hserve : (serve (turns + 1) bus e).result = (Serving.reception bus₁ e₁).result >>= fun
        | (.error stop, bus, e) => .ok (stop, bus, e)
        | (.ok _, bus, e) => (serve turns bus e).result := by
      simp only [serve, Run.loop_succ, turn, Run.result_bind, hemission, Outcomes.ok_bind, bind_assoc]
      refine congrArg _ (funext fun r => ?_)
      rcases r with ⟨stop | _, bus, e⟩ <;> rfl
    by_cases henough : e₁.armedSize ≤ (left bus.stream).length
    · rw [if_pos henough] at hreception
      obtain ⟨_, h₂⟩ | ⟨hnot, _⟩ := h₁.reception hn hidle hreception
      · have hfewer : (left bus₂.stream).length < turns := by
          rw [hleft₂, List.length_drop]
          omega
        obtain ⟨bus', e', received, hrest, hserves, hidle', htaken'⟩ := ih h₂ hfewer
        refine ⟨bus', e', received, ?_, hserves, hidle', ?_⟩
        · rw [hserve, hreception]
          exact hrest
        · rw [htaken', htaken₂, hleft₂, htaken₁, List.append_assoc, List.take_append_drop]
      · exact absurd rfl hnot
    · rw [if_neg henough] at hreception
      obtain ⟨hok, _⟩ | ⟨_, hidle', received, hserves⟩ := h₁.reception hn hidle hreception
      · cases hok
      · refine ⟨bus₂, e₂, received, ?_, hserves, hidle', ?_⟩
        · rw [hserve, hreception]
          rfl
        · rw [htaken₂, htaken₁, List.take_of_length_le (by omega)]

/-- A new endpoint that serves a bus under watch. -/
def serveWatched {η : Type} [Handler η] (n : Nat) (handler : η) (turns : Nat) (bus : σ) :
    Run (ServingEnd × Tap σ × Endpoint n Detached η) := do
  let e ← Endpoint.attach n Detached.mk handler
  serve turns ⟨bus, []⟩ e

/-- On a bus that does not fail, serving ends when the bytes do, and what was written to the bus are the responses
to the requests in these bytes, dispatched one after the other on an idle link. Frames that are too long were
skipped and counted up to where the counter stays, no request was an overrun, and whenever something was taken from
the bus all requests before it had been answered. -/
theorem serve_sequential {left : σ → Bytes} (hbus : Stream.Supplies left) (hn : Header.size < n) (bus : σ)
    (router : Router κ) {turns : Nat} (hturns : (left bus).length < turns) :
    let start : Session n κ := ⟨router, .idle ⟨⟩, []⟩
    ∃ bus' e s, (serveWatched n router turns bus).result = .ok (.closed, bus', e) ∧
      (start.takeAll (fitting (n - Header.size) (left bus))).result = .ok s ∧
      bus'.taken = left bus ∧ bus'.given = s.sent.flatten ∧ unflushed bus'.history = [] ∧ e.handler = s.router ∧
      e.oversized = .of (excess (n - Header.size) (left bus)).length ∧
      e.handler.tally.overrun = router.tally.overrun ∧ start.Prompt bus'.history := by
  intro start
  have hattach : (Endpoint.attach n Detached.mk router).result =
      .ok ⟨.idle ⟨⟩, .zeroed n, .header, router, 0⟩ := by
    rw [Endpoint.attach, if_neg (Nat.not_le_of_lt hn)]
    rfl
  have hparse : parse [] = ([], []) := parse_unfinished unfinished_nil
  have hstart : Serves start (⟨bus, []⟩ : Tap σ) ⟨.idle ⟨⟩, .zeroed n, .header, router, 0⟩ 0 := by
    refine ⟨?_, ?_, ⟨start, ?_, rfl, rfl, rfl⟩, rfl, ?_⟩
    · show Endpoint.Holds _ 0 (parse []).2
      rw [hparse]
      exact .fresh rfl
    · show (0 : Counter) = .of (excess _ []).length
      rw [excess_unfinished _ unfinished_nil]
      rfl
    · show (start.takeAll (fitting _ [])).result = .ok start
      rw [fitting_unfinished _ unfinished_nil]
      rfl
    · intro past piece later hsplit
      have hlength := congrArg List.length hsplit
      simp [Tap.history] at hlength
  obtain ⟨bus', e, received, hserve, hserves, hidle, htaken⟩ := hstart.closes hbus hn hturns
  obtain ⟨s, hs, hrouter, _, hgiven⟩ := hserves.session
  have htaken : bus'.taken = left bus := htaken
  rw [htaken] at hs
  rw [Link.armed?_idle hidle, Option.getD_none, List.append_nil] at hgiven
  refine ⟨bus', e, s, ?_, hs, htaken, hgiven, hserves.flushed, hrouter, ?_, ?_, hserves.prompt⟩
  · rw [serveWatched, Run.result_bind, hattach]
    exact hserve
  · rw [← htaken]
    exact hserves.oversized
  · rw [hrouter]
    exact Session.takeAll_overrun hn rfl hs

/-- Three requests that reach a service, among them a frame that is too long and a request that nobody takes. The
last bytes are no whole frame. -/
def mixedFrames : Bytes :=
  [7, 1, 0, 0, 0, 9, 9, 9, 0, 4, 1, 2, 3, 4, 7, 1, 0, 0, 0, 8, 1, 0, 0, 1, 5, 7, 2, 6, 0, 0, 7, 2]

/-- A service that replies, then does not know the operation, then runs out of room. -/
def mixedReplies : Router Bench.Device :=
  { capacity := 1
    services := [(7, .scripted [⟨[.draft (.put [0, 65])], .replied⟩, ⟨[], .notImplemented⟩,
      ⟨[.draft (.put [0, 66, 67, 68])], .replied⟩])] }

theorem serve_sequential_slowBus : Stream.Supplies SlowBus.bytes ∧ Header.size < 8 ∧ mixedFrames.length < 33 ∧
    ∃ bus' e, (serveWatched 8 mixedReplies 33 (⟨mixedFrames, 1⟩ : SlowBus)).result = .ok (.closed, bus', e) ∧
      bus'.given = [7, 129, 0, 0, 2, 0, 65, 7, 130, 6, 0, 1, 1] ∧ e.oversized = 1 ∧
      e.handler.tally = ⟨2, 1, 1, 0⟩ := by
  have hsession : (Session.takeAll (⟨mixedReplies, .idle ⟨⟩, []⟩ : Session 8 Bench.Device)
      (fitting (8 - Header.size) mixedFrames)).result.toOption.map (fun s => (s.sent.flatten, s.router.tally)) =
      some ([7, 129, 0, 0, 2, 0, 65, 7, 130, 6, 0, 1, 1], ⟨2, 1, 1, 0⟩) := by cbv
  have hexcess : (excess (8 - Header.size) mixedFrames).length = 1 := by cbv
  obtain ⟨bus', e, s, hrun, hs, _, hgiven, _, hrouter, hoversized, _⟩ :=
    serve_sequential SlowBus.supplies (show Header.size < 8 by decide) (⟨mixedFrames, 1⟩ : SlowBus) mixedReplies
      (show mixedFrames.length < 33 by decide)
  rw [hs] at hsession
  obtain ⟨hsent, htally⟩ := Prod.mk.inj (Option.some.inj hsession)
  exact ⟨SlowBus.supplies, by decide, by decide, bus', e, hrun, hgiven.trans hsent,
    hoversized.trans (congrArg Counter.of hexcess), (congrArg Router.tally hrouter).trans htally⟩

end Serving

end BusBridge

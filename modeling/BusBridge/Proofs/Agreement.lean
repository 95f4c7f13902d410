import Mathlib
import BusBridge.Proofs.Calls
import BusBridge.Proofs.Exchange
import BusBridge.Service.I2cPorts
/-!
# Calls and responses agree

A caller at the host's end of a `Line` makes one call after the other. Whatever the pace of the pipes
and whenever the bridge is polled, calls that all return give exactly the responses that the desk of the
bridge gives to the requests one after the other, and the bridge is left with the desk after them
(`Caller.calls_agree`). So each request was served once, in order, and no response was taken for
another one's.

The invariant has a part on each side. `Exchange` says where the exchange of the current request stands
on the side of the bridge, `Meets` adds what the host knows of it. Between two calls nothing is on its
way (`Rests`).

**What it does not establish.** Nothing is said of calls after one that failed; a response that is
still on its way then belongs to no exchange.
-/

namespace BusBridge

/-- The host's end of a line, with frames of at most `n` bytes. -/
abbrev Host (n k : Nat) (κ : Type) := Endpoint n (StreamMedium (Line k κ)) ResponseSlot

section Meets

variable {n k : Nat} {κ : Type} [Service κ]

def Host.bridge (e : Host n k κ) : Bridge k κ :=
  e.link.medium.stream.bridge

/-- What the host has heard of the response to a request. -/
inductive Hears (d : Desk κ) (m : Message) (read : Bytes) (expected : Option (UInt8 × UInt8)) (e : Host n k κ) :
    Prop where
  /-- the response is not complete -/
  | listening : e.Holds e.link.medium.received read → e.handler = ⟨expected, none, 0⟩ → Hears d m read expected e
  /-- the response is in the slot -/
  | heard {response : Message} {d' : Desk κ} : d.serve m = some (response, d') → read = response.frame →
      e.Holds e.link.medium.received [] → e.handler = ⟨none, some response, 0⟩ → Hears d m read expected e
  /-- the response is complete, and it is not the expected one or does not fit -/
  | missed {response : Message} {d' : Desk κ} : d.serve m = some (response, d') → read = response.frame →
      e.Holds e.link.medium.received [] → e.handler.response = none → Hears d m read expected e

/-- Where the exchange of a request stands on both sides: the host has written `written` of it and read
`read` of its response. -/
structure Meets (d : Desk κ) (m : Message) (written read : Bytes) (expected : Option (UInt8 × UInt8))
    (e : Host n k κ) : Prop where
  exchange : Exchange d m written read e.bridge
  emission : e.link.sending = none ∧ (written = [] ∨ written = m.frame) ∨
    e.link.armed? = some m.frame ∧ e.link.medium.sent = written.length ∧ written ≠ m.frame
  hears : Hears d m read expected e

/-- No call is under way and nothing is on the line. -/
structure Rests (d : Desk κ) (e : Host n k κ) : Prop where
  exchange : ∀ m, Exchange d m [] [] e.bridge
  idle : e.link.sending = none
  holds : e.Holds e.link.medium.received []
  handler : e.handler = {}

/-! ## What an exchange says of the bytes -/

variable {d : Desk κ} {m : Message} {written read : Bytes} {b : Bridge k κ}

theorem Exchange.written_prefix (h : Exchange d m written read b) : ∃ left, written ++ left = m.frame := by
  cases h with
  | asking _ hleft => exact ⟨_, hleft⟩
  | answering hwritten => exact ⟨[], by rw [hwritten, List.append_nil]⟩
  | dropped hwritten => exact ⟨[], by rw [hwritten, List.append_nil]⟩

/-- Bytes that the host has read are those of the response. -/
theorem Exchange.read_prefix (h : Exchange d m written read b) (hread : read ≠ []) :
    written = m.frame ∧ ∃ response d' left, d.serve m = some (response, d') ∧ read ++ left = response.frame := by
  cases h with
  | asking _ _ _ _ _ hnone => exact absurd hnone hread
  | @answering response d' left hwritten hserve _ _ hframe =>
    exact ⟨hwritten, response, d', b.pipes.outgoing ++ left, hserve, by rw [← List.append_assoc]; exact hframe⟩
  | dropped _ _ _ _ _ hnone => exact absurd hnone hread

/-- Nothing is read before all of the request is written. -/
theorem Exchange.read_nil (h : Exchange d m [] read b) : read = [] := by
  cases read with
  | nil => rfl
  | cons byte rest => exact absurd (h.read_prefix (List.cons_ne_nil byte rest)).1.symm (Framing.frame_ne_nil m)

/-- Before anything is written the exchange could be that of any request. -/
theorem Exchange.of_nothing (h : Exchange d m [] [] b) (m' : Message) : Exchange d m' [] [] b := by
  cases h with
  | asking hwritten _ hholds hidle houtgoing hread hdesk =>
    exact .asking hwritten rfl hholds hidle houtgoing hread hdesk
  | answering hwritten => exact absurd hwritten.symm (Framing.frame_ne_nil m)
  | dropped hwritten => exact absurd hwritten.symm (Framing.frame_ne_nil m)

/-- Once the host has read all of the response the bridge is done with the request. -/
theorem Exchange.ends {response : Message} {d' : Desk κ} (h : Exchange d m written response.frame b)
    (hserve : d.serve m = some (response, d')) : ∀ m', Exchange d' m' [] [] b := by
  cases h with
  | asking _ _ _ _ _ hread => exact absurd hread (Framing.frame_ne_nil response)
  | dropped _ _ _ _ _ hread => exact absurd hread (Framing.frame_ne_nil response)
  | answering _ hserve' hincoming hholds hframe hsending hdesk =>
    cases hserve.symm.trans hserve'
    rw [List.append_assoc] at hframe
    obtain ⟨houtgoing, rfl⟩ := List.append_eq_nil_iff.mp (List.append_right_eq_self.mp hframe)
    obtain ⟨_, hidle⟩ | ⟨hleft, _⟩ := hsending
    · exact fun m' => .asking (show [] ++ b.pipes.incoming = [] from hincoming) rfl hholds hidle houtgoing rfl hdesk
    · exact absurd rfl hleft

/-! ## Polls of the host -/

variable {expected : Option (UInt8 × UInt8)} {e e' : Host n k κ} {result : Except PollError Bool}

/-- A complete response that the slot was given is heard or missed. -/
theorem hears_of_receive {response : Message} {d' : Desk κ} (hserve : d.serve m = some (response, d'))
    (hread : read = response.frame) (hholds : e.Holds e.link.medium.received [])
    (hhandler : e.handler = ((⟨expected, none, 0⟩ : ResponseSlot).receive response).value) :
    Hears d m read expected e := by
  cases expected with
  | none => exact .missed hserve hread hholds (congrArg ResponseSlot.response hhandler)
  | some pair =>
    by_cases hmatch : response.component = pair.1 ∧ response.operation = pair.2
    · refine .heard hserve hread hholds (hhandler.trans ?_)
      simp only [ResponseSlot.receive, if_pos hmatch, Trace.value_pure]
    · refine .missed hserve hread hholds ((congrArg ResponseSlot.response hhandler).trans ?_)
      simp only [ResponseSlot.receive, if_neg hmatch]
      rfl

/-- After the response nothing more arrives. -/
theorem Exchange.pollReceive_after (hn : Header.size < n) (hk : Header.size < k) (hm : m.payload.length ≤ maxPayload)
    {response : Message} {d' : Desk κ} (h : Exchange d m written response.frame e.bridge)
    (hserve : d.serve m = some (response, d')) (hholds : e.Holds e.link.medium.received [])
    (hrun : e.pollReceive.result = .ok (result, e')) :
    ∃ stream, e' = e.absorb [] stream ∧ Exchange d m written response.frame stream.bridge ∧
      e'.Holds e'.link.medium.received [] := by
  obtain ⟨new, stream, hexchange, hstep⟩ :=
    Endpoint.receives_of_pollReceive (Line.readLaw hk hm written response.frame) hn
    ((List.append_nil response.frame).symm ▸ h) hholds hrun
  rw [List.nil_append] at hexchange
  have hnew : new = [] := by
    obtain ⟨_, response', _, left, hserve', hframe⟩ := hexchange.read_prefix (by simp [Framing.frame_ne_nil])
    cases hserve.symm.trans hserve'
    rw [List.append_assoc] at hframe
    exact (List.append_eq_nil_iff.mp (List.append_right_eq_self.mp hframe)).1
  subst hnew
  rw [List.append_nil] at hexchange
  obtain ⟨he', hholds'⟩ := hstep.starved
  exact ⟨stream, he', hexchange, hholds'⟩

/-- A poll of the host's reception keeps the exchange: it reads more of the response, or hears it. -/
theorem Meets.pollReceive (hn : Header.size < n) (hk : Header.size < k) (hm : m.payload.length ≤ maxPayload)
    (h : Meets d m written read expected e) (hrun : e.pollReceive.result = .ok (result, e')) :
    (∃ read', Meets d m written read' expected e') ∧ e'.link.sending = e.link.sending := by
  obtain ⟨hexchange, hemission, hhears⟩ := h
  cases hhears with
  | heard hserve hread hholds hhandler =>
    subst hread
    obtain ⟨stream, rfl, hexchange', hholds'⟩ := hexchange.pollReceive_after hn hk hm hserve hholds hrun
    exact ⟨⟨_, hexchange', hemission, .heard hserve rfl hholds' hhandler⟩, rfl⟩
  | missed hserve hread hholds hhandler =>
    subst hread
    obtain ⟨stream, rfl, hexchange', hholds'⟩ := hexchange.pollReceive_after hn hk hm hserve hholds hrun
    exact ⟨⟨_, hexchange', hemission, .missed hserve rfl hholds' hhandler⟩, rfl⟩
  | listening hholds hhandler =>
    obtain ⟨new, stream, hexchange', hstep⟩ := Endpoint.receives_of_pollReceive (Line.readLaw hk hm written read) hn
      ((List.append_nil read).symm ▸ hexchange) hholds hrun
    rw [List.nil_append] at hexchange'
    -- a frame that has arrived as a whole is the response
    have hwhole : ∀ {m' : Message}, read ++ new = m'.frame → m'.payload.length ≤ maxPayload →
        ∃ d', d.serve m = some (m', d') := by
      intro m' hframe hmax
      rw [hframe] at hexchange'
      obtain ⟨_, response, d', left, hserve, hresponse⟩ := hexchange'.read_prefix (Framing.frame_ne_nil m')
      obtain ⟨rfl, _⟩ := Framing.frame_append_eq (Desk.serve_max hserve) hmax hresponse
      exact ⟨d', hserve⟩
    cases hstep with
    | wait _ _ hholds' => exact ⟨⟨_, hexchange', hemission, .listening hholds' hhandler⟩, rfl⟩
    | report hreport =>
      cases hreport with
      | @deliver m' r hframe hmax hfit honMessage =>
        obtain ⟨d', hserve⟩ := hwhole hframe hmax
        cases honMessage
        refine ⟨⟨_, hexchange', hemission, hears_of_receive hserve hframe (.fresh rfl) ?_⟩, rfl⟩
        exact congrArg (fun slot : ResponseSlot => (slot.receive m').value) hhandler
      | pass hframe hmax hlong =>
        obtain ⟨d', hserve⟩ := hwhole hframe hmax
        refine ⟨⟨_, hexchange', hemission, .missed hserve hframe (.fresh rfl) ?_⟩, rfl⟩
        exact congrArg ResponseSlot.response hhandler
      | refuse _ _ _ hholds' => exact ⟨⟨_, hexchange', hemission, .listening hholds' hhandler⟩, rfl⟩
      | proceed _ _ hholds' => exact ⟨⟨_, hexchange', hemission, .listening hholds' hhandler⟩, rfl⟩

/-- What was heard does not depend on the emission. -/
theorem Hears.congr (h : Hears d m read expected e) (hreception : e'.reception = e.reception)
    (hinbox : e'.inbox = e.inbox) (hreceived : e'.link.medium.received = e.link.medium.received)
    (hhandler : e'.handler = e.handler) :
    Hears d m read expected e' := by
  cases h with
  | listening hholds hslot =>
    exact .listening (hreceived ▸ hholds.congr hreception hinbox) (hhandler.trans hslot)
  | heard hserve hread hholds hslot =>
    exact .heard hserve hread (hreceived ▸ hholds.congr hreception hinbox) (hhandler.trans hslot)
  | missed hserve hread hholds hslot =>
    exact .missed hserve hread (hreceived ▸ hholds.congr hreception hinbox) (hhandler ▸ hslot)

/-- A poll of the host's emission keeps the exchange: it writes more of the request, if it is not all
written. -/
theorem Meets.pollSend (hk : Header.size < k) (hm : m.payload.length ≤ maxPayload)
    (h : Meets d m written read expected e) (hrun : e.pollSend.result = .ok (result, e')) :
    (∃ written', Meets d m written' read expected e') ∧ (e.link.sending = none → e' = e) := by
  obtain ⟨hexchange, hemission, hhears⟩ := h
  obtain ⟨hidle, hwritten⟩ | ⟨harmed, hsent, hopen⟩ := hemission
  · have hsame : e' = e := by
      simp only [Endpoint.pollSend, Link.armed?_idle hidle, Run.result_pure] at hrun
      cases hrun
      rfl
    subst hsame
    exact ⟨⟨written, hexchange, .inl ⟨hidle, hwritten⟩, hhears⟩, fun _ => rfl⟩
  · refine ⟨?_, fun hidle => by cases harmed.symm.trans (Link.armed?_idle hidle)⟩
    obtain ⟨left, hleft⟩ := hexchange.written_prefix
    have hstart : ∀ left, written ++ [] ++ left = m.frame → Exchange d m (written ++ []) read e.bridge :=
      fun _ _ => (List.append_nil written).symm ▸ hexchange
    obtain ⟨new, stream, hexchange', hstep⟩ := Endpoint.sends_of_pollSend (Line.writeLaw hk hm written read) hstart hrun
    rw [List.nil_append] at hexchange'
    cases hstep with
    | idle hnone => cases harmed.symm.trans hnone
    | @wait frame left' _ harmed' hrest _ hmore =>
      cases harmed.symm.trans harmed'
      rw [hsent, ← hleft, List.drop_left] at hrest
      subst hrest
      rw [← List.append_assoc] at hleft
      refine ⟨written ++ new, hexchange' left' hleft, .inr ⟨harmed, ?_, fun hall => ?_⟩, hhears.congr rfl rfl rfl rfl⟩
      · exact (congrArg (· + new.length) hsent).trans List.length_append.symm
      · rw [hall] at hleft
        exact hmore (fun _ => rfl) (List.append_right_eq_self.mp hleft)
    | @report frame r harmed' hnew honSent =>
      cases harmed.symm.trans harmed'
      rw [hsent, ← hleft, List.drop_left] at hnew
      subst hnew
      cases honSent
      exact ⟨written ++ new, hexchange' [] (by rw [List.append_nil]; exact hleft), .inl ⟨rfl, .inr hleft⟩,
        hhears.congr rfl rfl rfl rfl⟩

/-- Polls of the host keep the exchange of a request. -/
theorem Meets.poll (hn : Header.size < n) (hk : Header.size < k) (hm : m.payload.length ≤ maxPayload) {rounds : Nat}
    (h : Meets d m written read expected e) (hrun : (e.poll rounds).result = .ok (result, e')) :
    ∃ written' read', Meets d m written' read' expected e' := by
  refine Endpoint.poll_keeps (fun _ e => ∃ written read, Meets d m written read expected e)
    (fun _ e₁ _ e₂ h₁ hsend => ?_) (fun _ e₁ _ e₂ h₁ hreceive => ?_) [] ⟨written, read, h⟩ hrun
  · obtain ⟨written₁, read₁, hmeets⟩ := h₁
    obtain ⟨⟨written₂, hmeets'⟩, _⟩ := hmeets.pollSend hk hm hsend
    exact ⟨written₂, read₁, hmeets'⟩
  · obtain ⟨written₁, read₁, hmeets⟩ := h₁
    obtain ⟨⟨read₂, hmeets'⟩, _⟩ := hmeets.pollReceive hn hk hm hreceive
    exact ⟨written₁, read₂, hmeets'⟩

/-- At rest any request can follow. -/
theorem Rests.meets (h : Rests d e) (m : Message) : Meets d m [] [] none e :=
  ⟨h.exchange m, .inl ⟨h.idle, .inl rfl⟩, .listening h.holds h.handler⟩

theorem Rests.desk (h : Rests d e) : e.bridge.desk = d := by
  cases h.exchange ⟨0, 0, 0, []⟩ with
  | asking _ _ _ _ _ _ hdesk => exact hdesk
  | answering hwritten => exact absurd hwritten.symm (Framing.frame_ne_nil _)
  | dropped hwritten => exact absurd hwritten.symm (Framing.frame_ne_nil _)

/-- Nothing comes from a line at rest. -/
theorem Meets.rests (h : Meets d m [] read none e) (hidle : e.link.sending = none) : Rests d e := by
  obtain ⟨hexchange, _, hhears⟩ := h
  obtain rfl := hexchange.read_nil
  cases hhears with
  | listening hholds hhandler => exact ⟨hexchange.of_nothing, hidle, hholds, hhandler⟩
  | @heard response _ _ hread => exact absurd hread.symm (Framing.frame_ne_nil response)
  | @missed response _ _ hread => exact absurd hread.symm (Framing.frame_ne_nil response)

theorem Rests.poll (hn : Header.size < n) (hk : Header.size < k) {rounds : Nat} (h : Rests d e)
    (hrun : (e.poll rounds).result = .ok (result, e')) : Rests d e' := by
  -- the exchange could be that of any request, so take one without payload
  have hm : (⟨0, 0, 0, []⟩ : Message).payload.length ≤ maxPayload := Nat.zero_le _
  refine Endpoint.poll_keeps (fun _ e => Rests d e) (fun _ e₁ _ e₂ h₁ hsend => ?_)
    (fun _ e₁ _ e₂ h₁ hreceive => ?_) [] h hrun
  · obtain ⟨_, hsame⟩ := (h₁.meets ⟨0, 0, 0, []⟩).pollSend hk hm hsend
    exact (hsame h₁.idle).symm ▸ h₁
  · obtain ⟨⟨_, hmeets⟩, hsending⟩ := (h₁.meets ⟨0, 0, 0, []⟩).pollReceive hn hk hm hreceive
    exact hmeets.rests (hsending.trans h₁.idle)

/-- A frame that is started on a line at rest begins the exchange of its message. -/
theorem Rests.begin {e₁ : Host n k κ} {slot : ResponseSlot} (h : Rests d e)
    (hendpoint : e₁ = { e with handler := slot, link := e₁.link }) (hcarries : e.link.Carries e₁.link m)
    (hslot : slot = e.handler.expect m.component (responseTo m.operation)) :
    Meets d m [] [] (some (m.component, responseTo m.operation)) e₁ := by
  have hmedium := hcarries.medium
  have hbridge : e₁.bridge = e.bridge := by
    rw [Host.bridge, hmedium]
    rfl
  have hreceived : e₁.link.medium.received = e.link.medium.received := by
    rw [hmedium]
    rfl
  refine ⟨?_, .inr ⟨hcarries.armed, congrArg StreamMedium.sent hmedium, (Framing.frame_ne_nil m).symm⟩,
    .listening ?_ ?_⟩
  · rw [hbridge]
    exact h.exchange m
  · rw [hreceived]
    exact h.holds.congr (by rw [hendpoint]) (by rw [hendpoint])
  · rw [hendpoint, hslot, h.handler]
    rfl

/-- A response in the slot is the one that the desk gives, and once it is taken out the line is at rest. -/
theorem Meets.rests_of_response (h : Meets d m written read expected e) {response : Message}
    (hslot : e.handler.response = some response) :
    ∃ d', d.serve m = some (response, d') ∧ Rests d' (Caller.emptied e) := by
  obtain ⟨hexchange, hemission, hhears⟩ := h
  cases hhears with
  | listening _ hhandler =>
    rw [hhandler] at hslot
    cases hslot
  | missed _ _ _ hnone => cases hnone.symm.trans hslot
  | @heard response' d' hserve hread hholds hhandler =>
    rw [hhandler] at hslot
    cases hslot
    subst hread
    refine ⟨d', hserve, hexchange.ends hserve, ?_, hholds.congr rfl rfl, ?_⟩
    · -- the bridge answers only what was written as a whole
      have hwhole := (hexchange.read_prefix (Framing.frame_ne_nil response)).1
      obtain ⟨hidle, _⟩ | ⟨_, _, hopen⟩ := hemission
      · exact hidle
      · exact absurd hwhole hopen
    · show e.handler.take.2 = {}
      rw [hhandler]
      rfl

end Meets

/-! ## Calls -/

namespace Caller

variable {n k : Nat} {κ : Type} [Service κ] {d : Desk κ} {m response : Message} {rounds : Nat}
  {c c' : Caller n (StreamMedium (Line k κ))}

/-- A call on a line at rest that gives a response gives that of the desk, and leaves the line at rest. -/
theorem demand_agrees (hn : Header.size < n) (hk : Header.size < k) {demand : Demand} (hrests : Rests d c.endpoint)
    (h : (demand.run rounds c).result = .ok (.ok response, c')) :
    ∃ d', d.serve demand.ask.message = some (response, d') ∧ Rests d' c'.endpoint := by
  cases Demand.run_met h with
  | failed _ hfailed _ => cases hfailed
  | @ended count begun e hbegin hpolls hends =>
    obtain ⟨settled, hsettle, hstart⟩ := Demand.begin_ok hbegin
    obtain ⟨hendpoint, hcarries⟩ := Ask.start_ok hn hstart
    have hreset : Rests d c.reset.endpoint := by
      refine ⟨hrests.exchange, hrests.idle, hrests.holds.congr rfl rfl, ?_⟩
      show c.endpoint.handler.reset = {}
      rw [hrests.handler]
      rfl
    have hsettled := (Demand.settle_polls hsettle).keeps (Rests d) (fun _ _ _ h hpoll => h.poll hn hk hpoll) hreset
    have hmeets := hsettled.begin hendpoint hcarries rfl
    obtain ⟨written, read, he⟩ := hpolls.keeps (fun e => ∃ written read, Meets d demand.ask.message written read _ e)
      (fun _ _ _ ⟨_, _, h⟩ hpoll => h.poll hn hk hcarries.max hpoll) ⟨[], [], hmeets⟩
    obtain ⟨hslot, hend⟩ := hends.response
    rw [hend]
    exact he.rests_of_response hslot

/-- Make one call after the other, each with its own clock. -/
def askAll {δ φ : Type} [Medium δ φ] [CallFailure φ] (rounds : Nat) (c : Caller n δ) :
    List (Clock × Ask) → Run (List (Except CallError Message) × Caller n δ)
  | [] => pure ([], c)
  | (clock, ask) :: rest => do
    let (result, c) ← ask.run rounds clock c
    let (results, c) ← askAll rounds c rest
    pure (result :: results, c)

theorem askAll_agrees (hn : Header.size < n) (hk : Header.size < k) {asks : List (Clock × Ask)}
    {responses : List Message} (hrests : Rests d c.endpoint)
    (h : (askAll rounds c asks).result = .ok (responses.map .ok, c')) :
    ∃ d', d.serveAll (asks.map fun ask => ask.2.message) = some (responses, d') ∧ Rests d' c'.endpoint := by
  induction asks generalizing c d responses with
  | nil =>
    obtain ⟨hnone, rfl⟩ := Prod.mk.inj (Except.ok.inj h)
    obtain rfl := List.map_eq_nil_iff.mp hnone.symm
    exact ⟨d, rfl, hrests⟩
  | cons ask asks ih =>
    obtain ⟨⟨result, c₁⟩, hcall, hrest⟩ := Run.result_bind_eq_ok.mp h
    obtain ⟨⟨results, c₂⟩, hcalls, hlast⟩ := Run.result_bind_eq_ok.mp hrest
    obtain ⟨hresults, rfl⟩ := Prod.mk.inj (Except.ok.inj hlast)
    obtain ⟨response, later, rfl, rfl, rfl⟩ := List.map_eq_cons_iff.mp hresults.symm
    have hdemand : ((Demand.blocking ask.1 ask.2).run rounds c).result = .ok (.ok response, c₁) := hcall
    obtain ⟨d₁, hserve, hrests₁⟩ := demand_agrees hn hk hrests hdemand
    simp only [Demand.ask] at hserve
    obtain ⟨d₂, hserves, hrests₂⟩ := ih hrests₁ hcalls
    refine ⟨d₂, ?_, hrests₂⟩
    simp only [List.map_cons, Desk.serveAll, hserve, hserves, Option.bind_eq_bind, Option.bind_some, Option.pure_def]

/-- A new bridge and a new caller, joined by empty pipes, and calls one after the other. -/
def converse (n k : Nat) (router : Router κ) (bridgePace hostPace : Nat → Nat) (moves : Nat → List PollCall)
    (settings : CallSettings) (rounds : Nat) (asks : List (Clock × Ask)) :
    Run (List (Except CallError Message) × Caller n (StreamMedium (Line k κ))) := do
  let bridge ← Endpoint.attach k ⟨⟨[], [], bridgePace, 0⟩, 0, 0⟩ router
  let host ← Caller.attach n ⟨⟨bridge, moves, hostPace, 0⟩, 0, 0⟩ settings
  askAll rounds host asks

/-- A new caller and a new bridge are at rest. -/
theorem attach_rests {router : Router κ} {bridgePace hostPace : Nat → Nat} {moves : Nat → List PollCall}
    {settings : CallSettings} {bridge : Bridge k κ}
    (hbridge : (Endpoint.attach k ⟨⟨[], [], bridgePace, 0⟩, 0, 0⟩ router).result = .ok bridge)
    (hhost : (attach n ⟨⟨bridge, moves, hostPace, 0⟩, 0, 0⟩ settings).result = .ok c) :
    Header.size < n ∧ Header.size < k ∧ Rests ⟨router, List.replicate (k - Header.size) 0⟩ c.endpoint := by
  obtain ⟨hk, rfl⟩ := Endpoint.attach_ok hbridge
  obtain ⟨e, he, hrest⟩ := Run.result_bind_eq_ok.mp hhost
  obtain ⟨hn, rfl⟩ := Endpoint.attach_ok he
  cases hrest
  have hblock : (Buffer.zeroed k).slice Header.size (k - Header.size) = List.replicate (k - Header.size) 0 := by
    simp only [Buffer.zeroed, Buffer.slice, Bytes.slice, List.drop_replicate, List.take_replicate, Nat.min_self]
  have hdesk : (⟨router, (Buffer.zeroed k).slice Header.size (k - Header.size)⟩ : Desk κ) =
      ⟨router, List.replicate (k - Header.size) 0⟩ := by rw [hblock]
  refine ⟨hn, hk, ?_⟩
  cases settings.dump with
  | true => exact ⟨fun m => .asking rfl rfl (.fresh rfl) rfl rfl rfl hdesk, rfl, .fresh rfl, rfl⟩
  | false => exact ⟨fun m => .asking rfl rfl (.fresh rfl) rfl rfl rfl hdesk, rfl, .fresh rfl, rfl⟩

/-- Calls that all return give the responses of the desk to the requests one after the other, and leave
the bridge with the desk after them. Each request counts as handled and none as overrun, and the caller
has ignored nothing. -/
theorem calls_agree {router : Router κ} {bridgePace hostPace : Nat → Nat} {moves : Nat → List PollCall}
    {settings : CallSettings} {asks : List (Clock × Ask)} {responses : List Message}
    (h : (converse n k router bridgePace hostPace moves settings rounds asks).result = .ok (responses.map .ok, c')) :
    (⟨router, List.replicate (k - Header.size) 0⟩ : Desk κ).serveAll (asks.map fun ask => ask.2.message) =
        some (responses, (Host.bridge c'.endpoint).desk) ∧
      (Host.bridge c'.endpoint).handler.tally =
        { router.tally with handled := router.tally.handled.plus asks.length } ∧
      c'.slot.ignored = 0 := by
  obtain ⟨bridge, hbridge, hrest⟩ := Run.result_bind_eq_ok.mp h
  obtain ⟨host, hhost, hasks⟩ := Run.result_bind_eq_ok.mp hrest
  obtain ⟨hn, hk, hrests⟩ := attach_rests hbridge hhost
  obtain ⟨d', hserves, hrests'⟩ := askAll_agrees hn hk hrests hasks
  obtain rfl := hrests'.desk
  refine ⟨hserves, ?_, ?_⟩
  · have htally := Desk.serveAll_tally hserves
    rwa [List.length_map] at htally
  · exact congrArg ResponseSlot.ignored hrests'.handler

/-- A chip that keeps what was written to it last. -/
structure Chip where
  register : Bytes

instance : I2cPort Chip where
  configure chip _ _ _ := (.ok (), chip)
  write _ _ data := (.ok (), ⟨data⟩)
  read chip _ slice := (.ok (), Bytes.overlay slice 0 chip.register, chip)

/-- A write to a chip and a read from it, over pipes through which few bytes pass at a time, and sometimes none. -/
def trickle : Run (List (Except CallError Message) × Caller 16 (StreamMedium (Line 24 (I2cPorts Chip)))) :=
  converse 16 24 ⟨1, [(1, ⟨[⟨[]⟩]⟩)], {}⟩ (fun turn => turn % 3) (fun turn => turn % 4)
    (fun turn => if turn % 2 = 0 then [.receive, .send] else [.both 3]) {} 40
    [(.showing fun _ => 0, .request 0 (.i2cWrite ⟨0x20, [0xaa, 0xbb]⟩)),
      (.showing fun _ => 0, .raw ⟨1, 2, 0, [0, 0x20, 2]⟩)]

/-- The second response holds what the first request wrote. -/
theorem calls_agree_trickle : ∃ c', trickle.result =
      .ok ([⟨1, 129, 0, [0, 0, 0x20]⟩, ⟨1, 130, 0, [0, 0, 0x20, 0xaa, 0xbb]⟩].map .ok, c') ∧
    (Host.bridge c'.endpoint).handler.tally = { handled := 2 } ∧ c'.slot.ignored = 0 := by
  have hrun : trickle.result.toOption.map Prod.fst =
      some [.ok ⟨1, 129, 0, [0, 0, 0x20]⟩, .ok ⟨1, 130, 0, [0, 0, 0x20, 0xaa, 0xbb]⟩] := by cbv
  obtain ⟨⟨results, c'⟩, hok, rfl⟩ := Option.map_eq_some_iff.mp hrun
  have hresult := Outcomes.toOption_eq_some.mp hok
  obtain ⟨_, htally, hignored⟩ := @calls_agree _ _ _ _ _ c' _ _ _ _ _ _
    [⟨1, 129, 0, [0, 0, 0x20]⟩, ⟨1, 130, 0, [0, 0, 0x20, 0xaa, 0xbb]⟩] hresult
  exact ⟨c', hresult, htally, hignored⟩

end Caller

end BusBridge

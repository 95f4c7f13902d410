import Mathlib
import BusBridge.Proofs.Delivery
import BusBridge.Proofs.Detaching
import BusBridge.Proofs.Outgoing
/-!
# From one endpoint to another

Messages are sent through one endpoint, each when the one before is complete, and the bytes on its wire reach another
endpoint, cut in any way. The first one refuses what does not fit its buffer or the length field, and nothing of that
is on the wire. The second one delivers those of the others that fit its own buffer, in order, and counts the rest
(`Posting.framing_round_trip`).

The two halves meet at the frames of the accepted messages, in a row: they are what the first endpoint has written
when its link is idle (`Link.Chronicle.whole`), and what the second one takes apart (`Framing.parse_frames`).
-/

namespace BusBridge

/-! ## A wire of whole frames -/

/-- The bytes that a milestone promises. -/
def Milestone.frame : Milestone → Bytes
  | started frame => frame
  | sent | abandoned => []

theorem Occasion.kept {η : Type} (o : Occasion η) : Milestone.abandoned ∉ o.milestones := by
  intro hmem
  obtain hmem | hmem := List.mem_append.mp hmem
  · split at hmem
    · cases List.mem_singleton.mp hmem
    · cases hmem
  · obtain ⟨frame, _, hframe⟩ := List.mem_map.mp hmem
    cases hframe

/-- A handler that starts nothing promises nothing. -/
theorem Occasion.quiet {η : Type} {log : List (Occasion η)} (h : ∀ o ∈ log, o.started = none) :
    (log.flatMap Occasion.milestones).flatMap Milestone.frame = [] := by
  apply List.flatMap_eq_nil_iff.mpr
  intro milestone hmem
  obtain ⟨o, ho, hmilestone⟩ := List.mem_flatMap.mp hmem
  rw [Occasion.milestones, h o ho] at hmilestone
  simp only [Option.toList_none, List.map_nil, List.append_nil] at hmilestone
  split at hmilestone
  · cases List.mem_singleton.mp hmilestone
    rfl
  · cases hmilestone

/-- While no frame is given up or on the link, the frames that were started are the wire. -/
theorem Link.Chronicle.whole {n : Nat} {σ : Type} {l : Link n (StreamMedium (Tap σ))} {milestones : List Milestone}
    {past : List Sending} {now : List Transfer} (h : l.Chronicle milestones past now) (hidle : l.armed? = none)
    (hkept : Milestone.abandoned ∉ milestones) : l.medium.stream.given = milestones.flatMap Milestone.frame := by
  have hframes : ∀ s ∈ past, Transfer.outflow s.transfers = s.milestones.flatMap Milestone.frame := by
    intro s hs
    cases hcomplete : s.complete with
    | false =>
      refine absurd ?_ hkept
      rw [h.milestones]
      refine List.mem_append_left _ (List.mem_flatMap.mpr ⟨s, hs, ?_⟩)
      simp [Sending.milestones, hcomplete]
    | true =>
      have hfaithful := h.faithful s hs
      rw [Sending.Faithful, if_pos hcomplete] at hfaithful
      obtain ⟨during, htransfers, hduring⟩ := hfaithful
      rw [htransfers, Transfer.outflow_append, hduring]
      simp [Sending.milestones, Milestone.frame, hcomplete, Transfer.outflow]
  have hmilestones := h.milestones
  rw [hidle, Option.toList_none, List.map_nil, List.append_nil] at hmilestones
  rw [h.wire, hidle, Option.getD_none, List.take_nil, List.append_nil, hmilestones, List.flatMap_assoc]
  exact List.flatMap_congr hframes

/-! ## Sending messages -/

/-- The messages of a list that an endpoint with frames of at most `n` bytes accepts. -/
def Message.accepted (n : Nat) (messages : List Message) : List Message :=
  messages.filter fun m => m.payload.length ≤ min (n - Header.size) maxPayload

/-- A step of someone who sends messages. -/
inductive Posting where
  | send (m : Message)
  | poll (call : PollCall)

namespace Posting

def message? : Posting → Option Message
  | send m => some m
  | poll _ => none

variable {n : Nat} {σ η : Type} [Stream σ] [Handler η]

/-- Send messages through an endpoint, and poll it in between: what it answers to each of them. It is a fault to send
one while another is on its way. -/
def runAll (e : Endpoint n (StreamMedium σ) η) :
    List Posting → Run (List (Except TooLarge Unit) × Endpoint n (StreamMedium σ) η)
  | [] => pure ([], e)
  | send m :: rest => do
    let (result, link) ← e.link.sendMessage m
    let (results, e) ← runAll { e with link } rest
    pure (result :: results, e)
  | poll call :: rest => do
    let (_, e) ← call.run e
    runAll e rest

/-- Attach an endpoint to a stream under watch, and send messages through it. -/
def watch (n : Nat) (line : σ) (handler : η) (postings : List Posting) :
    Run (List (Except TooLarge Unit) × Endpoint n (StreamMedium (Tap σ)) (Watched η)) := do
  let e ← Endpoint.attach n { stream := ⟨line, []⟩ } ⟨handler, []⟩
  runAll e postings

variable {e e' : Endpoint n (StreamMedium (Tap σ)) (Watched η)} {milestones : List Milestone} {past : List Sending}
  {now : List Transfer}

/-- Every message is answered as its length asks for, and the frames that are started are those of the accepted
messages, apart from what the handler starts. -/
theorem runAll_chronicle [UsesLink η] {postings : List Posting} {results : List (Except TooLarge Unit)}
    (hn : Header.size < n) (h : e.link.Chronicle milestones past now)
    (hrun : (runAll e postings).result = .ok (results, e')) :
    results = (postings.filterMap message?).map (Link.admission n) ∧
      ∃ new later past now, e'.handler.log = e.handler.log ++ new ∧ e'.link.Chronicle (milestones ++ later) past now ∧
        Milestone.abandoned ∉ later ∧ ((∀ o ∈ new, o.started = none) →
          later.flatMap Milestone.frame =
            (Message.accepted n (postings.filterMap message?)).flatMap Message.frame) := by
  induction postings generalizing e milestones past now results with
  | nil =>
    cases hrun
    exact ⟨rfl, [], [], past, now, (List.append_nil _).symm, (List.append_nil milestones).symm ▸ h, by simp,
      fun _ => rfl⟩
  | cons posting rest ih =>
    cases posting with
    | send m =>
      obtain ⟨⟨result, link⟩, hsend, hrest⟩ := Run.result_bind_eq_ok.mp hrun
      obtain ⟨⟨results', e₁⟩, hall, hlast⟩ := Run.result_bind_eq_ok.mp hrest
      cases hlast
      obtain ⟨l₁, hadmission, hcases⟩ := Link.sendMessage_idle hn (Link.idle_of_requireIdle hsend).1 m
      cases hadmission.symm.trans hsend
      obtain ⟨hfits, hstarts⟩ | ⟨hlarge, hdeclines⟩ := hcases
      · obtain ⟨rfl, new, later, past', now', hlog, hlink, hkept, hwire⟩ := ih (h.starts hstarts) hall
        refine ⟨rfl, new, .started m.frame :: later, past', now', hlog, ?_, ?_, ?_⟩
        · rwa [List.append_assoc, List.singleton_append] at hlink
        · simpa using hkept
        · intro hquiet
          have haccepted : Message.accepted n ((send m :: rest).filterMap message?) =
              m :: Message.accepted n (rest.filterMap message?) := List.filter_cons_of_pos (by simpa using hfits)
          rw [haccepted, List.flatMap_cons, List.flatMap_cons, hwire hquiet, Milestone.frame]
      · have hlink :=
          h.idle (Link.armed?_idle hdeclines.idle) (Link.armed?_idle hdeclines.left) (by rw [hdeclines.medium])
        obtain ⟨rfl, new, later, past', now', hlog, hlater, hkept, hwire⟩ := ih hlink hall
        refine ⟨rfl, new, later, past', now', hlog, hlater, hkept, ?_⟩
        intro hquiet
        have haccepted : Message.accepted n ((send m :: rest).filterMap message?) =
            Message.accepted n (rest.filterMap message?) := List.filter_cons_of_neg (by simpa using hlarge)
        rw [haccepted, hwire hquiet]
    | poll call =>
      obtain ⟨⟨result, e₁⟩, hpoll, hall⟩ := Run.result_bind_eq_ok.mp hrun
      have hcontinues : e.Continues e.handler.log milestones :=
        ⟨[], past, now, (List.append_nil _).symm, (List.append_nil milestones).symm ▸ h⟩
      obtain ⟨first, past₁, now₁, hlog₁, hlink₁⟩ : e₁.Continues e.handler.log milestones :=
        PollCall.run_keeps (fun _ e₁ => e₁.Continues e.handler.log milestones)
          (fun _ _ _ _ hc hsend => hc.pollSend hn hsend) (fun _ _ _ _ hc hreceive => hc.pollReceive hn hreceive)
            [] hcontinues hpoll
      obtain ⟨rfl, new, later, past', now', hlog, hlink, hkept, hwire⟩ := ih hlink₁ hall
      refine ⟨rfl, first ++ new, first.flatMap Occasion.milestones ++ later, past', now', ?_, ?_, ?_, ?_⟩
      · rw [hlog, hlog₁, List.append_assoc]
      · rwa [← List.append_assoc]
      · intro hmem
        obtain hmem | hmem := List.mem_append.mp hmem
        · obtain ⟨o, _, ho⟩ := List.mem_flatMap.mp hmem
          exact o.kept ho
        · exact hkept hmem
      · intro hquiet
        rw [List.flatMap_append, Occasion.quiet fun o ho => hquiet o (List.mem_append_left _ ho), List.nil_append]
        exact hwire fun o ho => hquiet o (List.mem_append_right _ ho)

section Accepting

variable [AnswersOnly η] {α : Type} {view : σ → α}

/-- On a stream that takes what it is given, one poll completes the frame on the link, and the handler starts
nothing. -/
theorem pollSend_completes (hline : Stream.Accepts view) (hreturns : HandlerReturns η) (hn : Header.size < n)
    (e : Endpoint n (StreamMedium (Tap σ)) (Watched η)) :
    ∃ result e' new, e.pollSend.result = .ok (result, e') ∧ e'.link.armed? = none ∧
      e'.handler.log = e.handler.log ++ new ∧
      ∀ o ∈ new, o.started = none := by
  obtain ⟨⟨result, e'⟩, hrun⟩ := Endpoint.pollSend_returns (Watched.returns hreturns) hn e
  cases hframe : e.link.armed? with
  | none =>
    have hsame := hrun
    unfold Endpoint.pollSend at hsame
    simp only [hframe] at hsame
    cases hsame
    exact ⟨_, e, [], hrun, hframe, (List.append_nil _).symm, by simp⟩
  | some frame =>
    obtain ⟨pieces, hgives⟩ := Endpoint.gives_of_pollSend hframe hrun
    generalize (Medium.pollSend e.link.medium frame).value.2.stream = stream at hgives
    cases hgives with
    | wait hopen => exact absurd (hline.tap.pollSend_ok hframe hrun) hopen
    | @report handler link hwhole hhistory honSent =>
      obtain ⟨_, hlog⟩ := Watched.onSent_ok honSent
      cases AnswersOnly.onSent honSent
      refine ⟨_, _, _, hrun, rfl, hlog, ?_⟩
      intro o ho
      cases List.mem_singleton.mp ho
      rfl

/-- Messages that are sent in turn, with a poll after each of them. -/
def inTurn (messages : List Message) : List Posting :=
  messages.flatMap fun m => [send m, poll .send]

@[simp] theorem message?_inTurn (messages : List Message) : (inTurn messages).filterMap message? = messages := by
  induction messages with
  | nil => rfl
  | cons m rest ih =>
    rw [inTurn, List.flatMap_cons, List.filterMap_append]
    exact congrArg (m :: ·) ih

theorem runAll_inTurn (hline : Stream.Accepts view) (hreturns : HandlerReturns η) (hn : Header.size < n)
    (messages : List Message) (hidle : e.link.armed? = none) :
    ∃ results e' new, (runAll e (inTurn messages)).result = .ok (results, e') ∧ e'.link.armed? = none ∧
      e'.handler.log = e.handler.log ++ new ∧ ∀ o ∈ new, o.started = none := by
  induction messages generalizing e with
  | nil => exact ⟨[], e, [], rfl, hidle, (List.append_nil _).symm, by simp⟩
  | cons m rest ih =>
    obtain ⟨link, hsend, _⟩ := Link.sendMessage_idle hn (Option.map_eq_none_iff.mp hidle) m
    obtain ⟨result, e₁, first, hpoll, hidle₁, hlog₁, hquiet₁⟩ :=
      pollSend_completes hline hreturns hn { e with link := link }
    obtain ⟨results, e₂, new, hrest, hidle₂, hlog₂, hquiet₂⟩ := ih hidle₁
    refine ⟨Link.admission n m :: results, e₂, first ++ new, ?_, hidle₂, ?_, ?_⟩
    · change (runAll e (send m :: poll .send :: inTurn rest)).result = _
      simp only [runAll, PollCall.run, Run.result_bind, hsend, hpoll, hrest, Outcomes.ok_bind, Run.result_pure]
    · rw [hlog₂, hlog₁, List.append_assoc]
    · intro o ho
      obtain ho | ho := List.mem_append.mp ho
      · exact hquiet₁ o ho
      · exact hquiet₂ o ho

end Accepting

end Posting

/-! ## Receiving frames -/

namespace Endpoint

variable {n : Nat} {σ η : Type} [Stream σ] [Handler η] [SendsOnly η]

/-- A handler that only sends leaves the stream alone when it is given a message. -/
theorem blockReceived_stream {e e' : Endpoint n (StreamMedium σ) η} {report : Except Oversized Unit}
    (hn : Header.size < n) (hreport : e.blockReceived.result = .ok (report, e')) :
    e'.link.medium.stream = e.link.medium.stream := by
  obtain ⟨delivered, hhands⟩ := handsOver_of_blockReceived hreport
  cases hhands with
  | nothing _ hlink =>
    rw [hlink]
    rfl
  | message honMessage _ hlink =>
    rw [hlink]
    exact (SendsOnly.onMessage hn honMessage).stream.1

variable {left : σ → Bytes} {pauses : σ → Nat} {e : Endpoint n (StreamMedium (Tap σ)) (Recorded η)}
  {reports : List Oversized}

/-- Polls enough take everything that a stream hands over at its own pace. -/
theorem Follows.takes_all (hline : Stream.Dribbles left pauses) (hreturns : HandlerReturns η) (hn : Header.size < n)
    {polls : Nat} (h : e.Follows reports)
    (henough : left e.line = [] ∨ (left e.line).length + pauses e.line ≤ polls) :
    ∃ results e', (PollCall.runAll e (List.replicate polls .receive)).result = .ok (results, e') ∧
      e'.link.medium.stream.taken = e.link.medium.stream.taken ++ left e.line := by
  induction polls generalizing e reports with
  | zero =>
    have hnil : left e.line = [] := henough.elim id fun hle => List.eq_nil_of_length_eq_zero (by omega)
    exact ⟨[], e, rfl, by rw [hnil, List.append_nil]⟩
  | succ polls ih =>
    obtain ⟨⟨result, e₁⟩, hpoll⟩ := pollReceive_returns (Recorded.returns hreturns) hn e
    have hopen := h.holds.received_lt
    obtain ⟨hconsumes, hcases⟩ := pollReceive_consumes hline ⟨h.holds.room hn, Nat.zero_lt_of_lt hopen⟩ hopen
      (fun _ _ _ hreport => blockReceived_stream hn hreport) hpoll
    have henough₁ : left e₁.line = [] ∨ (left e₁.line).length + pauses e₁.line ≤ polls := by
      by_cases hnil : left e₁.line = []
      · exact .inl hnil
      · have hleft := hconsumes.left
        have hpauses := hconsumes.pauses
        have hsome := List.length_pos_iff.mpr hnil
        have hbefore : left e.line ≠ [] := by
          intro hnone
          rw [hnone, List.length_nil] at hleft
          omega
        have hle := henough.resolve_left hbefore
        obtain ⟨_, hpause⟩ | ⟨_, hless⟩ := hcases
        · have hpause := hpause.resolve_left hnil
          exact .inr (by omega)
        · exact .inr (by omega)
    obtain ⟨results, e₂, hrest, htaken⟩ := ih (h.pollReceive hn hpoll) henough₁
    refine ⟨result :: results, e₂, ?_, htaken.trans hconsumes.taken⟩
    simp only [List.replicate_succ, PollCall.runAll, PollCall.run, Run.result_bind, hpoll, hrest, Outcomes.ok_bind,
      Run.result_pure]

end Endpoint

/-! ## Both together -/

namespace Posting

variable {σ σ' η η' : Type} [Stream σ] [Handler η] [UsesLink η] [Stream σ'] [Handler η'] [SendsOnly η']

/-- Messages that are sent through one endpoint reach the other one. Let `messages` be sent, each when the one before is
complete, through an endpoint with frames of at most `n` bytes whose handler starts nothing itself. Exactly those are
accepted that fit its buffer and the length field, and when the link is idle the wire is made of their frames. An
endpoint with frames of at most `n'` bytes that has taken these bytes, however they were cut, has delivered the messages
that fit its buffer, and has counted the others, as far as a counter goes. If the streams allow it, all is written and
all is taken. -/
theorem framing_round_trip {n n' : Nat} (hn : Header.size < n) (hn' : Header.size < n') (messages : List Message) :
    (∀ (line : σ) (sender : η) (postings : List Posting) results e, postings.filterMap message? = messages →
      (watch n line sender postings).result = .ok (results, e) → e.link.armed? = none →
      (∀ o ∈ e.handler.log, o.started = none) →
      results = messages.map (Link.admission n) ∧
        e.link.medium.stream.given = (Message.accepted n messages).flatMap Message.frame) ∧
    (∀ {α : Type} {view : σ → α} (line : σ) (sender : η), Stream.Accepts view → AnswersOnly η → HandlerReturns η →
      ∃ results e, (watch n line sender (inTurn messages)).result = .ok (results, e) ∧ e.link.armed? = none ∧
        ∀ o ∈ e.handler.log, o.started = none) ∧
    (∀ (source : σ') (receiver : η') calls results e,
      (Endpoint.watch n' source receiver calls).result = .ok (results, e) →
      e.link.medium.stream.taken = (Message.accepted n messages).flatMap Message.frame →
      e.handler.messages = (Message.accepted n messages).filter (·.payload.length ≤ n' - Header.size) ∧
        e.oversized = .of ((Message.accepted n messages).countP (n' - Header.size < ·.payload.length))) ∧
    (∀ {left : σ' → Bytes} {pauses : σ' → Nat} (source : σ') (receiver : η') polls, Stream.Dribbles left pauses →
      HandlerReturns η' → left source = (Message.accepted n messages).flatMap Message.frame →
      (left source).length + pauses source ≤ polls →
      ∃ results e, (Endpoint.watch n' source receiver (List.replicate polls .receive)).result = .ok (results, e) ∧
        e.link.medium.stream.taken = (Message.accepted n messages).flatMap Message.frame) := by
  have hmax : ∀ m ∈ Message.accepted n messages, m.payload.length ≤ maxPayload := by
    intro m hm
    have hfits := (List.mem_filter.mp hm).2
    simp only [decide_eq_true_eq] at hfits
    omega
  refine ⟨?_, ?_, ?_, ?_⟩
  · rintro line sender postings results e rfl hrun hidle hquiet
    obtain ⟨e₀, hattach, hposts⟩ := Run.result_bind_eq_ok.mp hrun
    obtain ⟨_, rfl⟩ := Endpoint.attach_ok hattach
    obtain ⟨hresults, new, later, past, now, hlog, hlink, hkept, hwire⟩ :=
      runAll_chronicle hn (Link.Chronicle.fresh line) hposts
    rw [List.nil_append] at hlog hlink
    refine ⟨hresults, ?_⟩
    rw [hlink.whole hidle hkept]
    exact hwire (hlog ▸ hquiet)
  · intro α view line sender hline _ hreturns
    obtain ⟨results, e, new, hrun, hidle, hlog, hquiet⟩ := runAll_inTurn
      (e := ⟨.idle (Medium.armReceive { stream := ⟨line, []⟩ } Header.size), .zeroed n, .header, ⟨sender, []⟩, 0⟩)
      hline hreturns hn messages rfl
    refine ⟨results, e, ?_, hidle, ?_⟩
    · rw [watch, Run.result_bind, Endpoint.attach_fresh hn]
      exact hrun
    · rw [hlog]
      exact hquiet
  · intro source receiver calls results e hrun htaken
    obtain ⟨start, hstart, hfollows⟩ := Endpoint.attach_follows hn' source receiver
    rw [Endpoint.watch, Run.result_bind, hstart] at hrun
    have h := PollCall.runAll_follows hn' hfollows hrun
    refine ⟨?_, ?_⟩
    · rw [h.messages, htaken, Framing.fitting_frames hmax]
      rfl
    · rw [h.oversized, htaken, Framing.length_excess_frames hmax]
      rfl
  · intro left pauses source receiver polls hline hreturns hleft henough
    obtain ⟨start, hstart, hfollows⟩ := Endpoint.attach_follows hn' source receiver
    obtain ⟨_, rfl⟩ := Endpoint.attach_ok hstart
    obtain ⟨results, e, hrun, htaken⟩ := hfollows.takes_all hline hreturns hn' (.inr henough)
    refine ⟨results, e, ?_, htaken.trans hleft⟩
    rw [Endpoint.watch, Run.result_bind, hstart]
    exact hrun

/-- Payloads of none, seven, eight, four and three bytes. -/
def fiveMessages : List Message :=
  [⟨7, 1, 0, []⟩, ⟨7, 2, 0, List.replicate 7 9⟩, ⟨7, 3, 0, List.replicate 8 9⟩, ⟨2, 2, 5, [1, 2, 3, 4]⟩,
    ⟨2, 2, 6, [1, 2, 3]⟩]

/-- A line that makes a pause before each byte. -/
def slowly (bytes : Bytes) : Drip :=
  ⟨bytes.flatMap fun b => [none, some b]⟩

theorem framing_round_trip_fiveMessages : Header.size < 12 ∧ Header.size < 8 ∧
    ∃ results e polled e', (watch 12 (⟨[]⟩ : Drip) ({} : ResponseSlot) (inTurn fiveMessages)).result =
      .ok (results, e) ∧
      results = [.ok (), .ok (), .error ⟨13, 12⟩, .ok (), .ok ()] ∧
      (Endpoint.watch 8 (slowly e.link.medium.stream.given) ({} : ResponseSlot) (List.replicate 68 .receive)).result =
        .ok (polled, e') ∧
      e'.handler.messages = [⟨7, 1, 0, []⟩, ⟨2, 2, 6, [1, 2, 3]⟩] ∧ e'.oversized = 2 := by
  obtain ⟨hsent, hall, hreceived, htakes⟩ :=
    @framing_round_trip Drip Drip ResponseSlot ResponseSlot _ _ _ _ _ _ 12 8 (by decide) (by decide) fiveMessages
  obtain ⟨results, e, hrun, hidle, hquiet⟩ :=
    hall ⟨[]⟩ {} (Drip.accepts Drip.left) inferInstance ResponseSlot.returns
  obtain ⟨hresults, hgiven⟩ := hsent _ _ _ _ _ (message?_inTurn fiveMessages) hrun hidle hquiet
  have hleft : (slowly e.link.medium.stream.given).left = (Message.accepted 12 fiveMessages).flatMap Message.frame := by
    rw [hgiven]
    decide
  have hpolls : (slowly e.link.medium.stream.given).left.length + (slowly e.link.medium.stream.given).pauses ≤ 68 := by
    rw [hgiven]
    decide
  obtain ⟨polled, e', hpolled, htaken⟩ := htakes _ {} _ Drip.dribbles ResponseSlot.returns hleft hpolls
  obtain ⟨hmessages, hoversized⟩ := hreceived _ _ _ _ _ hpolled htaken
  exact ⟨by decide, by decide, results, e, polled, e', hrun, hresults, hpolled, hmessages, hoversized⟩

end Posting

end BusBridge

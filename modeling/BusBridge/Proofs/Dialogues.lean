import Mathlib
import BusBridge.Caller.LightMeter
import BusBridge.Proofs.Outgoing
import BusBridge.Proofs.Settlement
/-!
# Requests that wait

A dialogue has two places for a request that it has decided on: the link, and the one that waits while the link is
busy with another frame. `Dialogue.Flushes` and `Dialogue.Advances` say what can become of it, and that a dialogue
always returns.

Whoever owns the endpoint may open the dialogue, move the endpoint on, and start frames of its own (`Dialogue.Move`).
The report of a sent frame sends the request that waits. Giving up a frame reports nothing, so the request stays where
it is although the link is idle; there is no other way to get there (`Dialogue.request_stranded_iff`).

A dialogue may end while a request waits, since messages are taken however busy the link is. It decides on nothing
more then, but the request is sent all the same with the next report, and it is the only one
(`Dialogue.started_after_end`).
-/

namespace BusBridge

/-! ## What an owner does -/

/-- Something that the owner of an endpoint does. -/
inductive Use where
  | drive (d : Drive)
  | start (s : Start)
  /-- write a payload in place -/
  | write (data : Bytes)

namespace Use

variable {n : Nat} {δ η φ : Type} [Medium δ φ] [Handler η] {e e' : Endpoint n δ η}

def run (e : Endpoint n δ η) : Use → Run (Endpoint n δ η)
  | drive d => d.run e
  | start s => do
    let (_, link) ← s.run e.link
    pure { e with link }
  | write data => do
    e.link.requireIdle
    pure { e with link := e.link.writePayload data }

/-- Do one thing after the other. -/
def runAll (e : Endpoint n δ η) (uses : List Use) : Run (Endpoint n δ η) :=
  uses.foldlM run e

/-- The owner's frames and payloads do not concern the handler, and need an idle link. -/
theorem run_cases {use : Use} (hn : Header.size < n) (hrun : (use.run e).result = .ok e') :
    (∃ d, use = .drive d ∧ (d.run e).result = .ok e') ∨
      (e.link.sending = none ∧ e'.handler = e.handler ∧
        ((∃ frame, e.link.Starts e'.link frame) ∨ e'.link.sending = none)) := by
  cases use with
  | drive d => exact .inl ⟨d, rfl, hrun⟩
  | start s =>
    obtain ⟨⟨accepted, link⟩, hstart, hrest⟩ := Run.result_bind_eq_ok.mp hrun
    cases hrest
    obtain ⟨_, hstarts⟩ | ⟨_, hdeclines⟩ := s.run_cases hn hstart
    · exact .inr ⟨hstarts.idle, rfl, .inl ⟨_, hstarts⟩⟩
    · exact .inr ⟨hdeclines.idle, rfl, .inr hdeclines.left⟩
  | write data =>
    obtain ⟨hidle, hrest⟩ := Link.idle_of_requireIdle hrun
    cases hrest
    exact .inr ⟨hidle, rfl, .inr hidle⟩

/-- What the occasions of a handler keep is kept whatever the owner does. -/
theorem runAll_keeps {P : η → Prop} (hn : Header.size < n) (hkeeps : Drive.Keeps (fun h (_ : Link n δ) => P h))
    {uses : List Use} (h : P e.handler) (hrun : (runAll e uses).result = .ok e') : P e'.handler := by
  refine Run.foldlM_keeps (fun e => P e.handler) ?_ h hrun
  intro use _ e₁ e₂ h₁ huse
  obtain ⟨d, rfl, hdrive⟩ | ⟨_, hhandler, _⟩ := run_cases hn huse
  · exact hkeeps.run (fun _ h => h) h₁ hdrive
  · exact hhandler ▸ h₁

end Use

/-! ## What a dialogue does -/

namespace Dialogue

variable {γ δ : Type} {n : Nat} {φ : Type} [Medium δ φ] {d d' : Dialogue γ} {l l' : Link n δ}

/-- What becomes of the request that waits when the link is looked at. -/
inductive Flushes (d : Dialogue γ) (l : Link n δ) : Dialogue γ → Link n δ → Prop where
  | nothing : d.pending = none → Flushes d l d l
  /-- the link is still busy -/
  | waits {request : Message} : d.pending = some request → l.isBusy = true → Flushes d l d l
  | sent {request : Message} {l' : Link n δ} : d.pending = some request →
      request.payload.length ≤ min (n - Header.size) maxPayload → l.Starts l' request.frame →
      Flushes d l { d with pending := none } l'
  /-- the request fits in no frame -/
  | failed {request : Message} {l' : Link n δ} : d.pending = some request →
      ¬request.payload.length ≤ min (n - Header.size) maxPayload → l.Declines l' →
      Flushes d l { d with pending := none, failed := true } l'

theorem flush_flushes (hn : Header.size < n) (d : Dialogue γ) (l : Link n δ) :
    ∃ d' l', (d.flush l).result = .ok (d', l') ∧ d.Flushes l d' l' := by
  unfold flush
  cases hpending : d.pending with
  | none => exact ⟨d, l, rfl, .nothing hpending⟩
  | some request =>
    simp only
    by_cases hbusy : l.isBusy = true
    · rw [if_pos hbusy]
      exact ⟨d, l, rfl, .waits hpending hbusy⟩
    · rw [if_neg hbusy]
      have hidle : l.sending = none := by
        rw [Link.isBusy, Option.not_isSome_iff_eq_none] at hbusy
        exact hbusy
      obtain ⟨l', hsend, ⟨hfits, hstarts⟩ | ⟨hlarge, hdeclines⟩⟩ := Link.sendMessage_idle hn hidle request
      · rw [Link.admission, if_pos hfits] at hsend
        simp only [Run.result_bind, hsend, Outcomes.ok_bind]
        exact ⟨_, l', rfl, .sent hpending hfits hstarts⟩
      · rw [Link.admission, if_neg hlarge] at hsend
        simp only [Run.result_bind, hsend, Outcomes.ok_bind]
        exact ⟨_, l', rfl, .failed hpending hlarge hdeclines⟩

/-- If the link is idle after it was looked at, no request waits. -/
theorem Flushes.clear (h : d.Flushes l d' l') (hidle : l'.sending = none) : d'.pending = none := by
  cases h with
  | nothing hpending => exact hpending
  | waits _ hbusy =>
    rw [Link.isBusy, hidle] at hbusy
    cases hbusy
  | sent | failed => rfl

variable [Conversation γ]

/-- What a dialogue does when it takes a step. -/
inductive Advances (d : Dialogue γ) (message : Option Message) (l : Link n δ) : Dialogue γ → Link n δ → Prop where
  | silent {step : γ} : (Conversation.next d.step message).value = (step, none) → Advances d message l { d with step } l
  | asks {step : γ} {request : Message} {d' : Dialogue γ} {l' : Link n δ} :
      (Conversation.next d.step message).value = (step, some request) →
      Flushes { d with step, pending := some request } l d' l' → Advances d message l d' l'

theorem advance_advances (hn : Header.size < n) (d : Dialogue γ) (message : Option Message) (l : Link n δ) :
    ∃ d' l', (d.advance message l).result = .ok (d', l') ∧ d.Advances message l d' l' := by
  unfold advance
  simp only [Run.result_bind, Run.result_lift, Outcomes.ok_bind]
  rcases hnext : (Conversation.next d.step message).value with ⟨step, request⟩
  cases request with
  | none => exact ⟨_, l, rfl, .silent hnext⟩
  | some request =>
    obtain ⟨d', l', hflush, hflushes⟩ := flush_flushes hn { d with step, pending := some request } l
    refine ⟨d', l', ?_, .asks hnext hflushes⟩
    simp only
    by_cases hreplaced : d.pending.isSome = true
    · simp only [if_pos hreplaced, Run.result_bind, Run.result_lift, Outcomes.ok_bind, hflush]
    · simp only [if_neg hreplaced, hflush]

/-- A dialogue breaks no rule of use. -/
theorem returns : HandlerReturns (Dialogue γ) := by
  intro n δ _ _ hn d l
  refine ⟨?_, ?_⟩
  · intro m
    simp only [Handler.onMessage]
    by_cases hfinished : d.isFinished = true
    · rw [if_pos hfinished]
      exact ⟨_, rfl⟩
    · rw [if_neg hfinished]
      obtain ⟨d', l', hadvance, _⟩ := advance_advances hn d (some m) l
      exact ⟨_, hadvance⟩
  · obtain ⟨d', l', hflush, _⟩ := flush_flushes hn d l
    exact ⟨_, hflush⟩

theorem onMessage_cases {m : Message} (hn : Header.size < n) (hrun : (Handler.onMessage d m l).result = .ok (d', l')) :
    (d.isFinished = true ∧ d' = d ∧ l' = l) ∨ (d.isFinished = false ∧ d.Advances (some m) l d' l') := by
  simp only [Handler.onMessage] at hrun
  cases hfinished : d.isFinished with
  | true =>
    rw [hfinished, if_pos rfl] at hrun
    cases hrun
    exact .inl ⟨rfl, rfl, rfl⟩
  | false =>
    rw [hfinished, if_neg Bool.false_ne_true] at hrun
    obtain ⟨d₁, l₁, hadvance, hadvances⟩ := advance_advances hn d (some m) l
    cases hadvance.symm.trans hrun
    exact .inr ⟨rfl, hadvances⟩

theorem onSent_cases (hn : Header.size < n) (hrun : (Handler.onSent d l).result = .ok (d', l')) :
    d.Flushes l d' l' := by
  obtain ⟨d₁, l₁, hflush, hflushes⟩ := flush_flushes hn d l
  cases hflush.symm.trans hrun
  exact hflushes

/-! ## Runs of a dialogue -/

/-- Something that the owner of a dialogue does. -/
inductive Move where
  /-- open the conversation -/
  | start
  | use (u : Use)

namespace Move

def run (e : Endpoint n δ (Dialogue γ)) : Move → Run (Endpoint n δ (Dialogue γ))
  | start => do
    let (handler, link) ← e.handler.start e.link
    pure { e with handler, link }
  | use u => u.run e

def runAll (e : Endpoint n δ (Dialogue γ)) (moves : List Move) : Run (Endpoint n δ (Dialogue γ)) :=
  moves.foldlM run e

/-- Give up the frame on the link. -/
def abandon : Move :=
  use (.drive .abandon)

end Move

/-- The link is idle, and a request waits for it all the same. -/
def Stranded (request : Message) (d : Dialogue γ) (l : Link n δ) : Prop :=
  l.sending = none ∧ d.pending = some request

theorem Advances.not_stranded {message : Option Message} {request : Message} (h : d.Advances message l d' l')
    (hnot : ¬Stranded request d l) : ¬Stranded request d' l' := by
  cases h with
  | silent => exact hnot
  | asks _ hflushes =>
    rintro ⟨hidle, hpending⟩
    cases (hflushes.clear hidle).symm.trans hpending

/-- Neither a message nor a report strands a request. -/
theorem keeps_not_stranded (hn : Header.size < n) (request : Message) :
    Drive.Keeps (fun (d : Dialogue γ) (l : Link n δ) => ¬Stranded request d l) where
  message hnot hrun := by
    obtain ⟨_, rfl, rfl⟩ | ⟨_, hadvances⟩ := onMessage_cases hn hrun
    · exact hnot
    · exact hadvances.not_stranded hnot
  report _ _ hrun := by
    rintro ⟨hidle, hpending⟩
    cases ((onSent_cases hn hrun).clear hidle).symm.trans hpending
  arm _ hnot := hnot
  receive _ hnot := hnot
  send _ hnot := hnot

variable {e e' : Endpoint n δ (Dialogue γ)} {request : Message}

/-- A request is stranded by giving up the frame that it waits for, and by nothing else. -/
theorem Move.run_stranded {move : Move} (hn : Header.size < n) (hnot : ¬Stranded request e.handler e.link)
    (hrun : (move.run e).result = .ok e') (hstranded : Stranded request e'.handler e'.link) :
    move = abandon ∧ e.isSending = true ∧ e.handler.pending = some request := by
  cases move with
  | start =>
    obtain ⟨⟨handler, link⟩, hstart, hrest⟩ := Run.result_bind_eq_ok.mp hrun
    cases hrest
    obtain ⟨d₁, l₁, hadvance, hadvances⟩ := advance_advances hn e.handler none e.link
    cases hadvance.symm.trans hstart
    exact absurd hstranded (hadvances.not_stranded hnot)
  | use u =>
    obtain ⟨drive, rfl, hdrive⟩ | ⟨hidle, hhandler, _⟩ := Use.run_cases hn hrun
    · by_cases habandon : drive = .abandon
      · subst habandon
        cases hdrive
        refine ⟨rfl, ?_, hstranded.2⟩
        cases hsending : e.link.sending with
        | some size => rw [Endpoint.isSending, Link.isBusy, hsending, Option.isSome_some]
        | none => exact absurd ⟨hsending, hstranded.2⟩ hnot
      · have hkept := (keeps_not_stranded hn request).run (fun h => absurd h habandon) hnot hdrive
        exact absurd hstranded hkept
    · rw [Stranded, hhandler] at hstranded
      exact absurd ⟨hidle, hstranded.2⟩ hnot

/-- The report of a sent frame sends the request that waits for it, or ends the dialogue. -/
theorem blockSent_pending (hn : Header.size < n) (hbusy : e.isSending = true)
    (hpending : e.handler.pending = some request) :
    ∃ e', e.blockSent.result = .ok e' ∧ e'.handler.pending = none ∧
      if request.payload.length ≤ min (n - Header.size) maxPayload then e'.link.armed? = some request.frame
      else e'.link.sending = none ∧ e'.handler.failed = true := by
  obtain ⟨size, hsize⟩ := Option.isSome_iff_exists.mp hbusy
  have harmed : e.link.armed? = some (e.link.buffer.slice 0 size) := by rw [Link.armed?, hsize]; rfl
  obtain ⟨d', l', hflush, hflushes⟩ := flush_flushes hn e.handler { e.link with sending := none }
  have hsent : (Handler.onSent e.handler { e.link with sending := none }).result = .ok (d', l') := hflush
  refine ⟨{ e with handler := d', link := l' }, by rw [Endpoint.blockSent_result harmed, hsent]; rfl, ?_⟩
  cases hflushes with
  | nothing hnone => cases hnone.symm.trans hpending
  | waits _ hbusy => cases hbusy
  | sent hsome hfits hstarts =>
    cases hsome.symm.trans hpending
    rw [if_pos hfits]
    exact ⟨rfl, hstarts.armed⟩
  | failed hsome hlarge hdeclines =>
    cases hsome.symm.trans hpending
    rw [if_neg hlarge]
    exact ⟨rfl, hdeclines.left, rfl⟩

/-- A request waits for an idle link exactly if the frame that it waited for was given up, and nothing has happened to
either of them since. The report of a frame, on the other hand, sends the request that waits or ends the dialogue. -/
theorem request_stranded_iff {moves : List Move} (hn : Header.size < n) (hnot : ¬Stranded request e.handler e.link)
    (hrun : (Move.runAll e moves).result = .ok e') :
    (Stranded request e'.handler e'.link ↔
      ∃ before after e₁, moves = before ++ .abandon :: after ∧ (Move.runAll e before).result = .ok e₁ ∧
        e₁.isSending = true ∧ e₁.handler.pending = some request ∧
        ∀ later, later <+: after → ∃ e₂, (Move.runAll e (before ++ .abandon :: later)).result = .ok e₂ ∧
          Stranded request e₂.handler e₂.link) ∧
    ∀ e₁ : Endpoint n δ (Dialogue γ), e₁.isSending = true → e₁.handler.pending = some request →
      ∃ e₂, e₁.blockSent.result = .ok e₂ ∧ e₂.handler.pending = none ∧
        if request.payload.length ≤ min (n - Header.size) maxPayload then e₂.link.armed? = some request.frame
        else e₂.link.sending = none ∧ e₂.handler.failed = true := by
  refine ⟨⟨?_, ?_⟩, fun e₁ hbusy hpending => blockSent_pending hn hbusy hpending⟩
  · intro hstranded
    -- the last move strands the request, or finds it stranded
    induction moves using List.reverseRecOn generalizing e' with
    | nil =>
      cases hrun
      exact absurd hstranded hnot
    | append_singleton moves move ih =>
      rw [Move.runAll, Run.foldlM_snoc] at hrun
      obtain ⟨e₁, hbefore, hlast⟩ := Run.result_bind_eq_ok.mp hrun
      by_cases hearlier : Stranded request e₁.handler e₁.link
      · obtain ⟨before, after, e₀, rfl, hreached, hbusy, hpending, hlater⟩ := ih hbefore hearlier
        refine ⟨before, after ++ [move], e₀, by simp, hreached, hbusy, hpending, ?_⟩
        intro later hprefix
        obtain rfl | hprefix := List.prefix_concat_iff.mp hprefix
        · refine ⟨e', ?_, hstranded⟩
          rw [← List.cons_append, ← List.append_assoc, Move.runAll, Run.foldlM_snoc]
          exact Run.result_bind_eq_ok.mpr ⟨e₁, hbefore, hlast⟩
        · exact hlater later hprefix
      · obtain ⟨rfl, hbusy, hpending⟩ := Move.run_stranded hn hearlier hlast hstranded
        refine ⟨moves, [], e₁, rfl, hbefore, hbusy, hpending, ?_⟩
        intro later hprefix
        obtain rfl := List.prefix_nil.mp hprefix
        refine ⟨e', ?_, hstranded⟩
        rw [Move.runAll, Run.foldlM_snoc]
        exact Run.result_bind_eq_ok.mpr ⟨e₁, hbefore, hlast⟩
  · rintro ⟨before, after, e₁, rfl, _, _, _, hlater⟩
    obtain ⟨e₂, hreached, hstranded⟩ := hlater after (List.prefix_refl after)
    cases hreached.symm.trans hrun
    exact hstranded

/-- An endpoint for a light reading that was not begun yet. -/
def lightEndpoint : Endpoint 16 Detached (Dialogue LightMeter) :=
  ⟨.idle ⟨⟩, .zeroed 16, .header, { step := .start 0 }, 0⟩

/-- The reading begins while a frame of the owner is on the link. -/
def busyStart : List Move :=
  [.use (.start (.message ⟨7, 1, 0, [9]⟩)), .start]

/-- The first request of a light reading. -/
def firstRequest : Message :=
  Request.protocolVersion.message 0

/-- The frame of the owner is given up, and the owner writes a payload without sending it. -/
theorem busyStart_abandoned : ∃ e', (Move.runAll lightEndpoint (busyStart ++ [.abandon, .use (.write [1])])).result =
    .ok e' ∧
    Stranded firstRequest e'.handler e'.link := by
  have hrun : (Move.runAll lightEndpoint (busyStart ++ [.abandon, .use (.write [1])])).result.toOption.map
      (fun e' => (e'.link.sending, e'.handler.pending)) = some (none, some firstRequest) := by cbv
  obtain ⟨e', hok, hvalue⟩ := Option.map_eq_some_iff.mp hrun
  exact ⟨e', Outcomes.toOption_eq_some.mp hok, Prod.mk.inj hvalue⟩

theorem request_stranded_iff_busyStart :
    Header.size < 16 ∧ ¬Stranded firstRequest lightEndpoint.handler lightEndpoint.link ∧
    ∃ before after e₁, busyStart ++ [.abandon, .use (.write [1])] = before ++ .abandon :: after ∧
      (Move.runAll lightEndpoint before).result = .ok e₁ ∧ e₁.isSending = true ∧
      e₁.handler.pending = some firstRequest ∧
      ∃ e₂, e₁.blockSent.result = .ok e₂ ∧ e₂.link.armed? = some [0, 0, 0, 0, 0] := by
  have hn : Header.size < 16 := by decide
  have hnot : ¬Stranded firstRequest lightEndpoint.handler lightEndpoint.link := fun h => nomatch h.2
  obtain ⟨e', hrun, hstranded⟩ := busyStart_abandoned
  obtain ⟨hblame, hreport⟩ := request_stranded_iff hn hnot hrun
  obtain ⟨before, after, e₁, hmoves, hreached, hbusy, hpending, _⟩ := hblame.mp hstranded
  obtain ⟨e₂, hsent, _, harmed⟩ := hreport e₁ hbusy hpending
  exact ⟨hn, hnot, before, after, e₁, hmoves, hreached, hbusy, hpending, e₂, hsent, harmed⟩

/-- The link is idle, and a request waits that nothing will send before the next frame of the owner was sent. -/
theorem request_waits_idle : ∃ e', (Move.runAll lightEndpoint (busyStart ++ [.abandon])).result = .ok e' ∧
    e'.link.sending = none ∧ e'.handler.pending = some firstRequest := by
  have hrun : (Move.runAll lightEndpoint (busyStart ++ [.abandon])).result.toOption.map
      (fun e' => (e'.link.sending, e'.handler.pending)) = some (none, some firstRequest) := by cbv
  obtain ⟨e', hok, hvalue⟩ := Option.map_eq_some_iff.mp hrun
  exact ⟨e', Outcomes.toOption_eq_some.mp hok, Prod.mk.inj hvalue⟩

/-! ## After the end -/

/-- The frame of the request that waits, if a frame can hold it. -/
def waitingFrame (n : Nat) (d : Dialogue γ) : Option Bytes :=
  (d.pending.filter fun request => request.payload.length ≤ min (n - Header.size) maxPayload).map Message.frame

/-- The steps of the conversation that end it decide on no request, and are its last ones. -/
def Concludes (γ : Type) [Conversation γ] : Prop :=
  ∀ (step : γ) (message : Option Message), Conversation.isFinished step = true →
    (Conversation.next step message).value.2 = none ∧
      Conversation.isFinished (Conversation.next step message).value.1 = true

theorem lightMeter_concludes : Concludes LightMeter := by
  intro step message hfinished
  cases step with
  | done lux | failed reason => cases message <;> exact ⟨rfl, rfl⟩
  | start | version | configured | measuring | delayed | reading => cases hfinished

/-- What is known of a dialogue under watch that ended with `d`: until the first report the request still waits, and
from then on it is gone, with its frame as the only one that was started. -/
def AfterEnd (n : Nat) (d : Dialogue γ) (w : Watched (Dialogue γ)) : Prop :=
  w.handler.isFinished = true ∧
    if w.log.any (·.message.isNone) then w.handler.pending = none ∧ w.started = (d.waitingFrame n).toList
    else w.handler.pending = d.pending ∧ w.started = []

theorem AfterEnd.onMessage {m : Message} {w w' : Watched (Dialogue γ)} (hn : Header.size < n) (h : AfterEnd n d w)
    (hrun : (Handler.onMessage w m l).result = .ok (w', l')) : AfterEnd n d w' := by
  obtain ⟨hinner, hlog⟩ := Watched.onMessage_ok hrun
  obtain ⟨hfinished, hkept⟩ := h
  obtain ⟨_, hhandler, rfl⟩ | ⟨hopen, _⟩ := onMessage_cases hn hinner
  · have hstarted : w'.started = w.started := by
      rw [Watched.started_snoc hlog, Occasion.started_of_left rfl, Option.toList_none, List.append_nil]
    have hreports : w'.log.any (·.message.isNone) = w.log.any (·.message.isNone) := by
      rw [hlog, List.any_append]
      exact Bool.or_false _
    rw [AfterEnd, hhandler, hstarted, hreports]
    exact ⟨hfinished, hkept⟩
  · cases hopen.symm.trans hfinished

theorem AfterEnd.onSent {w w' : Watched (Dialogue γ)} (hn : Header.size < n) (h : AfterEnd n d w)
    (hidle : l.sending = none) (hrun : (Handler.onSent w l).result = .ok (w', l')) : AfterEnd n d w' := by
  obtain ⟨hinner, hlog⟩ := Watched.onSent_ok hrun
  obtain ⟨hfinished, hkept⟩ := h
  have hreports : w'.log.any (·.message.isNone) = true := by
    rw [hlog, List.any_append]
    exact Bool.or_true _
  have hstarted : w'.started = w.started ++ l'.armed?.toList := by
    rw [Watched.started_snoc hlog, Occasion.started, Link.armed?_idle hidle]
  rw [AfterEnd, hreports, if_pos rfl, hstarted]
  -- the request that still waits, and what was started so far
  have hwaiting : w.handler.pending = none ∧ w.started = (d.waitingFrame n).toList ∨
      w.handler.pending = d.pending ∧ w.started = [] := by
    cases hany : w.log.any (·.message.isNone) with
    | true =>
      rw [hany, if_pos rfl] at hkept
      exact .inl hkept
    | false =>
      rw [hany, if_neg Bool.false_ne_true] at hkept
      exact .inr hkept
  generalize hbefore : w.handler = d₁ at *
  generalize hafter : w'.handler = d₂ at *
  cases onSent_cases hn hinner with
  | nothing hnone =>
    rw [Link.armed?_idle hidle, Option.toList_none, List.append_nil]
    refine ⟨hfinished, hnone, ?_⟩
    obtain ⟨_, hframes⟩ | ⟨hsame, hframes⟩ := hwaiting
    · exact hframes
    · rw [hframes, waitingFrame, ← hsame, hnone]
      rfl
  | waits _ hbusy =>
    rw [Link.isBusy, hidle] at hbusy
    cases hbusy
  | sent hsome hfits hstarts =>
    obtain ⟨hnone, _⟩ | ⟨hsame, hframes⟩ := hwaiting
    · cases hnone.symm.trans hsome
    · refine ⟨hfinished, rfl, ?_⟩
      rw [hframes, hstarts.armed, waitingFrame, ← hsame, hsome, Option.filter_some, if_pos (decide_eq_true hfits)]
      rfl
  | failed hsome hlarge hdeclines =>
    obtain ⟨hnone, _⟩ | ⟨hsame, hframes⟩ := hwaiting
    · cases hnone.symm.trans hsome
    · refine ⟨rfl, rfl, ?_⟩
      rw [hframes, Link.armed?_idle hdeclines.left, waitingFrame, ← hsame, hsome, Option.filter_some,
        if_neg (by simpa using hlarge)]
      rfl

theorem keeps_afterEnd (hn : Header.size < n) (d : Dialogue γ) :
    Drive.Keeps (fun w (_ : Link n δ) => AfterEnd n d w) where
  message h hmessage := AfterEnd.onMessage hn h hmessage
  report h _ hsent := AfterEnd.onSent hn h rfl hsent
  arm _ h := h
  receive _ h := h
  send _ h := h

/-- A dialogue that has ended stays so, and decides on nothing more: whatever its owner does, the only frame that it
starts is that of the request that waited when it ended, and this one with the first report. To open a conversation that
has concluded starts nothing either. -/
theorem started_after_end (hn : Header.size < n) {e : Endpoint n δ (Dialogue γ)} (hend : e.handler.isFinished = true) :
    (∀ {uses : List Use} {e' : Endpoint n δ (Watched (Dialogue γ))}, (Use.runAll e.watched uses).result = .ok e' →
      e'.handler.handler.isFinished = true ∧
        e'.handler.started =
          if e'.handler.log.any (·.message.isNone) then (e.handler.waitingFrame n).toList else []) ∧
    (Concludes γ → Conversation.isFinished e.handler.step = true →
      ∃ d', (e.handler.start e.link).result = .ok (d', e.link) ∧ d'.isFinished = true ∧
        d'.pending = e.handler.pending) := by
  constructor
  · intro uses e' hrun
    have hstart : AfterEnd n e.handler e.watched.handler := ⟨hend, rfl, rfl⟩
    obtain ⟨hfinished, hkept⟩ := Use.runAll_keeps hn (keeps_afterEnd hn e.handler) hstart hrun
    refine ⟨hfinished, ?_⟩
    split
    next hreported =>
      rw [hreported, if_pos rfl] at hkept
      exact hkept.2
    next hsilent =>
      rw [if_neg hsilent] at hkept
      exact hkept.2
  · intro hconcludes hfinished
    obtain ⟨hnone, hlast⟩ := hconcludes e.handler.step none hfinished
    obtain ⟨d', l', hstart, hadvances⟩ := advance_advances hn e.handler none e.link
    cases hadvances with
    | silent hnext =>
      rw [hnext] at hlast
      refine ⟨_, hstart, ?_, rfl⟩
      rw [isFinished, hlast, Bool.or_true]
    | asks hnext =>
      rw [hnext] at hnone
      cases hnone

/-- The reading ends by a response that reports a failure, while the first request still waits. -/
def earlyFailure : List Move :=
  busyStart ++ [.use (.drive (.accept [0, 128, 0, 0, 1])), .use (.drive (.accept [1]))]

/-- The frame of the owner is sent, and then another one, with messages in between. -/
def afterwards : List Use :=
  [.drive (.accept [0, 128, 0, 0, 0]), .drive .sent, .drive .sent, .start (.message ⟨7, 2, 0, []⟩), .drive .sent]

/-- A light reading that is watched from its early failure on. -/
def watchFailure (uses : List Use) :
    Run (Endpoint 16 Detached (Dialogue LightMeter) × Endpoint 16 Detached (Watched (Dialogue LightMeter))) := do
  let e ← Move.runAll lightEndpoint earlyFailure
  let e' ← Use.runAll e.watched uses
  pure (e, e')

theorem watchFailure_ok {uses : List Use} {e : Endpoint 16 Detached (Dialogue LightMeter)}
    {e' : Endpoint 16 Detached (Watched (Dialogue LightMeter))} (h : (watchFailure uses).result = .ok (e, e')) :
    (Move.runAll lightEndpoint earlyFailure).result = .ok e ∧ (Use.runAll e.watched uses).result = .ok e' := by
  obtain ⟨e₁, hmoves, hrest⟩ := Run.result_bind_eq_ok.mp h
  obtain ⟨e₂, huses, hlast⟩ := Run.result_bind_eq_ok.mp hrest
  cases hlast
  exact ⟨hmoves, huses⟩

theorem started_after_end_earlyFailure : Header.size < 16 ∧ Concludes LightMeter ∧
    ∃ e e', (Move.runAll lightEndpoint earlyFailure).result = .ok e ∧
      (Use.runAll e.watched afterwards).result = .ok e' ∧
      e.handler.isFinished = true ∧ e'.handler.started = [[0, 0, 0, 0, 0]] ∧
      ∃ d', (e.handler.start e.link).result = .ok (d', e.link) := by
  have hrun : (watchFailure afterwards).result.toOption.map (fun r => (r.1.handler.isFinished,
      Conversation.isFinished r.1.handler.step, r.1.handler.waitingFrame 16, r.2.handler.log.any (·.message.isNone))) =
      some (true, true, some [0, 0, 0, 0, 0], true) := by cbv
  obtain ⟨⟨e, e'⟩, hok, hvalue⟩ := Option.map_eq_some_iff.mp hrun
  simp only [Prod.mk.injEq] at hvalue
  obtain ⟨hend, hstep, hwaiting, hreported⟩ := hvalue
  obtain ⟨hmoves, huses⟩ := watchFailure_ok (Outcomes.toOption_eq_some.mp hok)
  have hn : Header.size < 16 := by decide
  obtain ⟨hquiet, hclosed⟩ := started_after_end hn hend
  obtain ⟨_, hstarted⟩ := hquiet huses
  rw [hreported, if_pos rfl, hwaiting] at hstarted
  obtain ⟨d', hstart, _⟩ := hclosed lightMeter_concludes hstep
  exact ⟨hn, lightMeter_concludes, e, e', hmoves, huses, hend, hstarted, d', hstart⟩

/-- The reading has failed and no request will be decided on, and still one is started. -/
theorem request_after_end : ∃ e e', (Move.runAll lightEndpoint earlyFailure).result = .ok e ∧
    e.handler.isFinished = true ∧ (Use.runAll e.watched [.drive .sent]).result = .ok e' ∧
    e'.handler.started = [firstRequest.frame] := by
  have hrun :
      (watchFailure [.drive .sent]).result.toOption.map (fun r => (r.1.handler.isFinished, r.2.handler.started)) =
      some (true, [firstRequest.frame]) := by cbv
  obtain ⟨⟨e, e'⟩, hok, hvalue⟩ := Option.map_eq_some_iff.mp hrun
  obtain ⟨hmoves, huses⟩ := watchFailure_ok (Outcomes.toOption_eq_some.mp hok)
  obtain ⟨hend, hstarted⟩ := Prod.mk.inj hvalue
  exact ⟨e, e', hmoves, hend, huses, hstarted⟩

end Dialogue

end BusBridge

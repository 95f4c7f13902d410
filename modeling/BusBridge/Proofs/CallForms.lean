import BusBridge.Proofs.Contract
import BusBridge.Proofs.Correlation
import BusBridge.Proofs.Outlets
/-!
# Three forms of one call

A call is made in one of three forms: by a request, by a message as it is, or cooperatively. Each has a loop of its own
to settle and to wait, its own place where the slot is reset, and one of two ways to put the frame into the buffer. Here
they are shown to be one exchange.

A request and its message are put into the buffer as the same frame, and are refused alike (`Link.sendRequest_eq`,
`Link.sendRequest_full`); a request that is refused may leave some of its bytes in the buffer, and so callers are
compared `tidied`. A deadline does nothing to a call but end it: a call that is not ended by the timeout is
`Caller.calmCall`, which has no deadline, in both its blocking and its cooperative form (`Demand.run_calm`).

A timeout is always reported, so a call that reports none was not ended by it (`Caller.Untimed`). To look at the error
would not do, since a failure of the medium may be a timeout to the call, too; and so it may be a refusal. A blocking
call whose deadline cannot be told does nothing at all.

What is compared is all that can be seen (`Demand.seen`): the events, the result, the calls to the medium as a `Logbook`
keeps them, and the caller that is left. The main statement is `Demand.forms_agree`.
-/

namespace BusBridge

/-! ## Runs that are not cut short -/

namespace Run

variable {α β σ σ' : Type}

/-- What follows a run matters at the value of the run only. -/
theorem bind_congr_result {x : Run α} {k k' : α → Run β} (h : ∀ a, x.result = .ok a → k a = k' a) :
    x >>= k = x >>= k' := by
  show x.bind k = x.bind k'
  unfold Run.bind
  cases hresult : x.result with
  | error f => rfl
  | ok a => simp only [h a hresult]

theorem events_bind_ok {x : Run α} {k : α → Run β} {a : α} (h : x.result = .ok a) :
    (x >>= k).events = x.events ++ (k a).events := by
  show (x.bind k).events = _
  unfold Run.bind
  rw [h]

theorem events_map (f : α → β) (x : Run α) : (f <$> x).events = x.events := by
  obtain ⟨events, result⟩ := x
  cases result with
  | error fault => rfl
  | ok a => exact List.append_nil events

/-- Loops correspond if their turns do, apart from last turns with a value and events that the whole loop does not have.
What the whole loop does not have is in no part of it. -/
theorem loop_map_of {body : σ → Run (Turn σ α)} {body' : σ' → Run (Turn σ' β)} {f : σ → σ'} {g : α → β}
    {P : α → List Event → Prop} (part : ∀ {a before after}, P a (before ++ after) → P a before ∧ P a after)
    (turn : ∀ s, (∀ a, (body s).result = .ok (.done a) → P a (body s).events) → body' (f s) = Turn.map f g <$> body s)
    (limit : Nat) (s : σ) (h : ∀ a, (loop body limit s).result = .ok a → P a (loop body limit s).events) :
    loop body' limit (f s) = g <$> loop body limit s := by
  induction limit generalizing s with
  | zero => rfl
  | succ limit ih =>
    rw [loop_succ] at h
    have hlast : ∀ a, (body s).result = .ok (.done a) → P a (body s).events := by
      intro a hdone
      have hwhole := h a (result_bind_eq_ok.mpr ⟨_, hdone, rfl⟩)
      rw [events_bind_ok hdone] at hwhole
      exact (part hwhole).1
    rw [loop_succ, loop_succ, turn s hlast, bind_map_left, map_bind]
    refine bind_congr_result fun t ht => ?_
    cases t with
    | again s' =>
      refine ih s' fun a hrest => ?_
      have hwhole := h a (result_bind_eq_ok.mpr ⟨_, ht, hrest⟩)
      rw [events_bind_ok ht] at hwhole
      exact (part hwhole).2
    | done a => rfl

end Run

/-! ## A request and its message -/

namespace Link

variable {n : Nat} {δ : Type}

/-- The link without what stands in its buffer while it is idle. -/
def tidied (l : Link n δ) : Link n δ :=
  { l with buffer := if l.isBusy then l.buffer else .zeroed n }

variable {l : Link n δ}

theorem tidied_writePayload (hidle : l.sending = none) (data : Bytes) : (l.writePayload data).tidied = l.tidied := by
  simp only [tidied, writePayload, isBusy, hidle, Option.isSome_none]
  rfl

variable {φ : Type} [Medium δ φ]

/-- What an idle link answers to a request. -/
theorem sendRequest_idle (hn : Header.size < n) (hidle : l.sending = none) (channel : UInt8) (r : Request) :
    ∃ l', (l.sendRequest channel r).result =
      .ok (if min (n - Header.size) maxPayload < r.layout.length then .error {} else .ok (), l') := by
  obtain ⟨⟨sent, l'⟩, hsend⟩ := sendRequest_returns hn hidle channel r
  refine ⟨l', ?_⟩
  cases sent with
  | ok _ =>
    obtain ⟨_, hmax, hfits, _⟩ := sendRequest_ok hn hsend
    have hshort : ¬min (n - Header.size) maxPayload < r.layout.length := Nat.not_lt_of_le (Nat.le_min.mpr ⟨hfits, hmax⟩)
    rw [if_neg hshort]
    exact hsend
  | error e =>
    have hlong : min (n - Header.size) maxPayload < r.layout.length := by
      refine Nat.lt_of_not_le fun hle => ?_
      obtain ⟨hfits, hmax⟩ := Nat.le_min.mp hle
      have hfitting : ∃ l', (l.sendRequest channel r).result = .ok (.ok (), l') ∧ _ :=
        sendRequest_fits hn hidle hfits hmax
      obtain ⟨_, hok, _⟩ := hfitting
      cases hok.symm.trans hsend
    rw [if_pos hlong]
    exact hsend

end Link

/-- A timeout is reported. -/
def Event.isTimeout : Event → Bool
  | notice (.stillSending _) | notice (.noResponse _) => true
  | _ => false

namespace Caller

section Forms

variable {n : Nat} {δ η : Type} [KeepsSlot η]

/-- The caller without what stands in its send buffer while nothing is sent. -/
def tidied (c : Caller n δ η) : Caller n δ η :=
  c.setLink c.endpoint.link.tidied

/-- A caller that waits for nothing has nothing to stop. -/
theorem reset_reset (c : Caller n δ η) : c.reset.reset = c.reset := by
  simp only [reset, setSlot, slot, KeepsSlot.slot_setSlot, KeepsSlot.setSlot_setSlot]
  rfl

variable {φ : Type} [Medium δ φ] {c c' : Caller n δ η}

/-- On an idle link a request begins a call as its message does. If both are refused the callers differ in the buffer at
most. -/
theorem begin_same (hn : Header.size ≤ n) (hidle : c.endpoint.link.sending = none) (channel : UInt8) (r : Request) :
    c.begin channel r = c.beginRaw (r.message channel) ∨
      ∃ c₁ c₂, c.begin channel r = pure (.error .capacity, c₁) ∧
        c.beginRaw (r.message channel) = pure (.error .capacity, c₂) ∧ c₁.tidied = c₂.tidied := by
  by_cases hfits : r.layout.length ≤ n - Header.size
  · left
    have hsend := Link.sendRequest_eq hn hidle channel hfits
    unfold begin beginRaw
    simp only [setSlot, hsend, bind_map_left]
    refine bind_congr ?_
    rintro ⟨_ | _, link⟩ <;> rfl
  · right
    have hfull := Nat.lt_of_not_le hfits
    obtain ⟨data, hrequest⟩ := Link.sendRequest_full hidle channel hfull
    have hmessage := Link.sendMessage_full (m := r.message channel) hidle hfull
    let expecting := c.setSlot (c.slot.expect r.command.component (responseTo r.command.operation))
    refine ⟨(expecting.setLink (c.endpoint.link.writePayload data)).reset, (expecting.setLink c.endpoint.link).reset,
      ?_, ?_, ?_⟩
    · unfold begin
      simp only [setSlot, hrequest, pure_bind]
      rfl
    · unfold beginRaw
      simp only [setSlot, hmessage, pure_bind]
      rfl
    · exact congrArg (fun link => (expecting.setLink link).reset) (Link.tidied_writePayload hidle data)

variable [CallFailure φ] [Handler η] {rounds : Nat} {late cut : Nat → Bool} {clock : Clock} {channel : UInt8}
    {r : Request}

/-- An exchange by a request is one by its message. -/
theorem exchange_tidied (hn : Header.size ≤ n) (c : Caller n δ η) :
    (fun p => (p.1, p.2.tidied)) <$> c.exchange rounds late (fun c => c.beginRaw (r.message channel)) =
      (fun p => (p.1, p.2.tidied)) <$> c.exchange rounds late fun c => c.begin channel r := by
  unfold exchange
  rw [map_bind, map_bind]
  refine Run.bind_congr_result ?_
  rintro ⟨_ | looks, settled⟩ hsettle
  · rfl
  · simp only
    obtain heq | ⟨c₁, c₂, hrequest, hmessage, hsame⟩ := begin_same hn (settle_idle hsettle) channel r
    · rw [heq]
    · simp only [hrequest, hmessage, pure_bind, map_pure, hsame]

/-- A call by a request is one by its message, whatever the clock shows. -/
theorem call_tidied (hn : Header.size ≤ n) (c : Caller n δ η) :
    (fun p => (p.1, p.2.tidied)) <$> c.callRaw rounds clock (r.message channel) =
      (fun p => (p.1, p.2.tidied)) <$> c.call rounds clock channel r := by
  unfold callRaw call
  by_cases htells : clock.Tells c.settings.timeout
  · rw [Clock.within_tells htells, Clock.within_tells htells]
    exact exchange_tidied hn c
  · rw [Clock.within_untold htells, Clock.within_untold htells]

/-! ## Calls without a deadline -/

/-- Poll until nothing is left to send and nothing arrives. -/
def calmSettleTurn (rounds : Nat) (c : Caller n δ η) :
    Run (Turn (Caller n δ η) (Except CallError Unit × Caller n δ η)) := do
  match ← c.step rounds with
  | (.error e, c) => pure (.done (.error e, c))
  | (.ok progress, c) =>
    if !progress && !c.endpoint.isSending then pure (.done (.ok (), c)) else pure (.again c)

/-- Poll until the expected response is there. -/
def calmAwaitTurn (rounds : Nat) (c : Caller n δ η) :
    Run (Turn (Caller n δ η) (Except CallError Message × Caller n δ η)) := do
  match ← c.step rounds with
  | (.error e, c) => pure (.done (.error e, c.reset))
  | (.ok _, c) =>
    let (response, slot) := c.slot.take
    let c := c.setSlot slot
    match response with
    | some m => pure (.done (.ok m, c))
    | none => pure (.again c)

/-- A call without a deadline: settle, start the frame and wait for the response. -/
def calmCall (rounds : Nat) (c : Caller n δ η) (channel : UInt8) (r : Request) :
    Run (Except CallError Message × Caller n δ η) := do
  match ← Run.loop (calmSettleTurn rounds) rounds c.reset with
  | (.error e, c) => pure (.error e, c)
  | (.ok _, c) =>
    match ← c.begin channel r with
    | (.error e, c) => pure (.error e, c)
    | (.ok _, c) => Run.loop (calmAwaitTurn rounds) rounds c

/-- No timeout was reported, or it is not the timeout that ended the work. -/
def Unreported {α σ : Type} (p : Except CallError α × σ) (events : List Event) : Prop :=
  p.1 = .error .timeout → ∀ e ∈ events, e.isTimeout = false

theorem Unreported.part {α σ : Type} {p : Except CallError α × σ} {before after : List Event}
    (h : Unreported p (before ++ after)) : Unreported p before ∧ Unreported p after :=
  ⟨fun htimeout e he => h htimeout e (List.mem_append_left after he),
    fun htimeout e he => h htimeout e (List.mem_append_right before he)⟩

/-- The run is not ended by the timeout: if its error is one, none was reported, and the error is that of the medium. -/
def Untimed {α σ : Type} (x : Run (Except CallError α × σ)) : Prop :=
  ∀ p, x.result = .ok p → Unreported p x.events

section Parts

variable {α β σ τ : Type}

/-- Nor is a part of the run that hands its error on. -/
theorem Untimed.first {x : Run (Except CallError β × τ)} {k : Except CallError β × τ → Run (Except CallError α × σ)}
    (h : Untimed (x >>= k)) (hk : ∀ error t, ∃ s, k (.error error, t) = pure (.error error, s)) : Untimed x := by
  rintro ⟨first, t⟩ hfirst rfl
  obtain ⟨s, hs⟩ := hk .timeout t
  have hwhole := h (.error .timeout, s) (Run.result_bind_eq_ok.mpr ⟨_, hfirst, by rw [hs]; rfl⟩)
  rw [Run.events_bind_ok hfirst] at hwhole
  exact hwhole.part.1 rfl

/-- Nor is the last part of the run. -/
theorem Untimed.last {x : Run β} {k : β → Run (Except CallError α × σ)} (h : Untimed (x >>= k)) {b : β}
    (hb : x.result = .ok b) : Untimed (k b) := by
  intro p hp
  have hwhole := h p (Run.result_bind_eq_ok.mpr ⟨_, hb, hp⟩)
  rw [Run.events_bind_ok hb] at hwhole
  exact hwhole.part.2

end Parts

theorem settle_calm (h : Untimed (c.settle rounds late)) :
    Run.loop (calmSettleTurn rounds) rounds c.reset =
      (fun p => (p.1.map fun _ => (), p.2)) <$> c.settle rounds late := by
  refine Run.loop_map_of (f := Prod.snd) Unreported.part ?_ rounds (0, c.reset) h
  rintro ⟨looks, c⟩ hdone
  unfold calmSettleTurn settleTurn at *
  rw [map_bind]
  refine Run.bind_congr_result ?_
  rintro ⟨_ | progress, c₁⟩ hstep
  · rfl
  · simp only
    split
    next => rfl
    next hgoes =>
      split
      next hlate =>
        have hreported := hdone (.error .timeout, c₁) (Run.result_bind_eq_ok.mpr ⟨_, hstep, by
          simp only [if_neg hgoes, if_pos hlate]
          rfl⟩) rfl
        rw [Run.events_bind_ok hstep] at hreported
        simp only [if_neg hgoes, if_pos hlate] at hreported
        cases hreported _ (List.mem_append_right _ List.mem_cons_self)
      next => rfl

theorem await_calm {looks : Nat} (h : Untimed (c.await rounds late looks)) :
    Run.loop (calmAwaitTurn rounds) rounds c = c.await rounds late looks := by
  have hloop : Run.loop (calmAwaitTurn rounds) rounds c = id <$> c.await rounds late looks := by
    refine Run.loop_map_of (f := Prod.snd) Unreported.part ?_ rounds (looks, c) h
    rintro ⟨looks, c⟩ hdone
    unfold calmAwaitTurn awaitTurn at *
    rw [map_bind]
    refine Run.bind_congr_result ?_
    rintro ⟨_ | progress, c₁⟩ hstep
    · rfl
    · simp only
      cases htake : c₁.slot.take.1 with
      | some m => rfl
      | none =>
        simp only
        split
        next hlate =>
          have hreported := hdone (.error .timeout, (c₁.setSlot c₁.slot.take.2).reset)
            (Run.result_bind_eq_ok.mpr ⟨_, hstep, by
              simp only [htake, if_pos hlate]
              rfl⟩) rfl
          rw [Run.events_bind_ok hstep] at hreported
          simp only [htake, if_pos hlate] at hreported
          cases hreported _ (List.mem_append_right _ List.mem_cons_self)
        next => rfl
  rw [hloop, id_map]

omit [KeepsSlot η] in
theorem settleCoop_calm (h : Untimed (Run.loop (settleCoopTurn rounds cut) rounds (0, c))) :
    Run.loop (calmSettleTurn rounds) rounds c =
      (fun p => (p.1, p.2.2)) <$> Run.loop (settleCoopTurn rounds cut) rounds (0, c) := by
  refine Run.loop_map_of (f := Prod.snd) Unreported.part ?_ rounds (0, c) h
  rintro ⟨pauses, c⟩ hdone
  unfold calmSettleTurn settleCoopTurn at *
  rw [map_bind]
  refine Run.bind_congr_result ?_
  rintro ⟨_ | _ | _, c₁⟩ hstep
  · rfl
  · simp only [Bool.not_false, Bool.true_and]
    split
    next => rfl
    next hgoes =>
      split
      next hcut =>
        have hreported := hdone (.error .timeout, pauses, c₁) (Run.result_bind_eq_ok.mpr ⟨_, hstep, by
          simp only [if_neg hgoes, if_pos hcut]
          rfl⟩) rfl
        rw [Run.events_bind_ok hstep] at hreported
        simp only [if_neg hgoes, if_pos hcut] at hreported
        cases hreported _ (List.mem_append_right _ List.mem_cons_self)
      next => rfl
  · rfl

theorem awaitCoop_calm {pauses : Nat} (h : Untimed (Run.loop (awaitCoopTurn rounds cut) rounds (pauses, c))) :
    Run.loop (calmAwaitTurn rounds) rounds c =
      (fun p => (p.1, p.2.2.conclude p.1)) <$> Run.loop (awaitCoopTurn rounds cut) rounds (pauses, c) := by
  refine Run.loop_map_of (f := Prod.snd) Unreported.part ?_ rounds (pauses, c) h
  rintro ⟨pauses, c⟩ hdone
  unfold calmAwaitTurn awaitCoopTurn at *
  rw [map_bind]
  refine Run.bind_congr_result ?_
  rintro ⟨_ | progress, c₁⟩ hstep
  · rfl
  · simp only
    cases htake : c₁.slot.take.1 with
    | some m => rfl
    | none =>
      simp only
      split
      next => rfl
      next hidles =>
        split
        next hcut =>
          have hreported := hdone (.error .timeout, pauses, c₁.setSlot c₁.slot.take.2)
            (Run.result_bind_eq_ok.mpr ⟨_, hstep, by
              simp only [htake, if_neg hidles, if_pos hcut]
              rfl⟩) rfl
          rw [Run.events_bind_ok hstep] at hreported
          simp only [htake, if_neg hidles, if_pos hcut] at hreported
          cases hreported _ (List.mem_append_right _ List.mem_cons_self)
        next => rfl

/-- An exchange that is not ended by its deadline has none. -/
theorem exchange_calm (h : Untimed (c.exchange rounds late fun c => c.begin channel r)) :
    (c.exchange rounds late fun c => c.begin channel r) = c.calmCall rounds channel r := by
  unfold exchange at *
  rw [calmCall, settle_calm (h.first fun _ _ => ⟨_, rfl⟩), bind_map_left]
  refine Run.bind_congr_result ?_
  rintro ⟨_ | looks, settled⟩ hok
  · rfl
  · refine Run.bind_congr_result ?_
    rintro ⟨_ | _, begun⟩ hbegin
    · rfl
    · exact (await_calm ((h.last hok).last hbegin)).symm

omit [CallFailure φ] [Handler η] in
/-- A call that is refused stops to wait for a response. -/
theorem begin_reset {error : CallError} (h : (c.begin channel r).result = .ok (.error error, c')) : c'.reset = c' := by
  obtain ⟨⟨_ | _, link⟩, _, hrest⟩ := Run.result_bind_eq_ok.mp h
  · cases hrest
    exact reset_reset _
  · cases hrest

end Forms

/-! ## Calls with a slot alone -/

variable {n : Nat} {δ φ : Type} [Medium δ φ] {c c' : Caller n δ} {rounds : Nat} {late cut : Nat → Bool}
    {channel : UInt8}
  {r : Request}

theorem keeps_reset : Drive.Keeps fun (slot : ResponseSlot) (_ : Link n δ) => slot.reset = slot where
  message {h h' m l l'} hreset hrun := by
    rw [ListensOnly.onMessage] at hrun
    cases hrun
    rw [← hreset]
    rfl
  report {h h' l l' size} hreset _ hrun := by
    rw [ListensOnly.onSent] at hrun
    cases hrun
    exact hreset
  arm _ hreset := hreset
  receive _ hreset := hreset
  send _ hreset := hreset

variable [CallFailure φ]

/-- While a caller settles it waits for nothing. -/
theorem settleCoop_reset {p : Except CallError Unit × Nat × Caller n δ}
    (h : (Run.loop (settleCoopTurn rounds cut) rounds (0, c.reset)).result = .ok p) : p.2.2.reset = p.2.2 := by
  have hslot : p.2.2.endpoint.handler.reset = p.2.2.endpoint.handler :=
    (settleCoop_polls h).keeps (fun e => e.handler.reset = e.handler)
      (fun _ _ _ hreset hpoll => keeps_reset.poll hreset hpoll) rfl
  exact congrArg p.2.2.setSlot hslot

/-- A cooperative exchange that is not ended by the timeout has none. -/
theorem exchangeCoop_calm (h : Untimed (c.exchangeCoop rounds cut channel r)) :
    (fun p => (p.1, p.2.2.conclude p.1)) <$> c.exchangeCoop rounds cut channel r = c.calmCall rounds channel r := by
  unfold exchangeCoop at *
  rw [calmCall, settleCoop_calm (h.first fun _ _ => ⟨_, rfl⟩), bind_map_left, map_bind]
  refine Run.bind_congr_result ?_
  rintro ⟨_ | _, pauses, settled⟩ hok
  · exact congrArg (fun c => pure (Except.error _, c)) (settleCoop_reset hok)
  · simp only [map_bind]
    refine Run.bind_congr_result ?_
    rintro ⟨_ | _, begun⟩ hbegin
    · exact congrArg (fun c => pure (Except.error _, c)) (begin_reset hbegin)
    · exact (awaitCoop_calm ((h.last hok).last hbegin)).symm

namespace Demand

/-- A call by a request that is not ended by the timeout is one without a deadline, in each of its forms. -/
theorem run_calm {d : Demand} (hask : d.ask = .request channel r) (htells : d.Tells c.settings.timeout)
    (h : Untimed (d.run rounds c)) : d.run rounds c = c.calmCall rounds channel r := by
  cases d with
  | blocking clock ask =>
    cases hask
    have hexchange : run rounds c (blocking clock (.request channel r)) =
        c.exchange rounds (clock.late c.settings.timeout) fun c => c.begin channel r :=
      (Ask.run_eq rounds clock c (.request channel r)).trans (Clock.within_tells htells)
    rw [hexchange] at h ⊢
    exact exchange_calm h
  | cooperative cut channel r =>
    cases hask
    have hcall : Untimed (c.callCoop rounds cut channel r) := h.first fun _ _ => ⟨_, rfl⟩
    have hexchange : Untimed (c.exchangeCoop rounds cut channel r) := hcall.first fun _ _ => ⟨_, rfl⟩
    rw [← exchangeCoop_calm hexchange, map_eq_pure_bind]
    simp only [run, callCoop, bind_assoc]
    refine Run.bind_congr_result ?_
    rintro ⟨_ | _, pauses, c₁⟩ _ <;> rfl

end Demand

/-! ## Refused calls -/

omit [CallFailure φ] in
/-- What comes of beginning a call on an idle link depends on the size of its message. -/
theorem Ask.start_idle (hn : Header.size < n) (hidle : c.endpoint.link.sending = none) (ask : Ask) :
    ∃ c', (ask.start c).result =
      .ok (if min (n - Header.size) maxPayload < ask.message.payload.length then .error .capacity else .ok (), c') := by
  cases ask with
  | request channel r =>
    obtain ⟨link, hsend⟩ := Link.sendRequest_idle hn hidle channel r
    by_cases hlong : min (n - Header.size) maxPayload < r.layout.length
    · rw [if_pos hlong] at hsend
      exact ⟨_, Run.result_bind_eq_ok.mpr ⟨_, hsend, by rw [Ask.message, Request.message, if_pos hlong]; rfl⟩⟩
    · rw [if_neg hlong] at hsend
      exact ⟨_, Run.result_bind_eq_ok.mpr ⟨_, hsend, by rw [Ask.message, Request.message, if_neg hlong]; rfl⟩⟩
  | raw m =>
    obtain ⟨link, hsend, _⟩ := Link.sendMessage_idle hn hidle m
    by_cases hlong : min (n - Header.size) maxPayload < m.payload.length
    · rw [Link.admission, if_neg (Nat.not_le_of_lt hlong)] at hsend
      exact ⟨_, Run.result_bind_eq_ok.mpr ⟨_, hsend, by rw [Ask.message, if_pos hlong]; rfl⟩⟩
    · rw [Link.admission, if_pos (Nat.le_of_not_lt hlong)] at hsend
      exact ⟨_, Run.result_bind_eq_ok.mpr ⟨_, hsend, by rw [Ask.message, if_neg hlong]; rfl⟩⟩

namespace Demand

variable {d : Demand}

/-- Settling that goes well leaves the link idle. -/
theorem settle_idle {count : Nat} (h : (d.settle rounds c).result = .ok (.ok count, c')) :
    c'.endpoint.link.sending = none := by
  cases d with
  | blocking clock ask => exact Caller.settle_idle h
  | cooperative cut channel r =>
    obtain ⟨⟨_ | _, pauses, settled⟩, hsettle, hrest⟩ := Run.result_bind_eq_ok.mp h
    · cases hrest
    · cases hrest
      exact settleCoop_idle hsettle

/-- A call comes to a refusal exactly if its deadline can be told, and it settles and its message fits in no frame or
its medium fails in a way that is a refusal to it. -/
theorem refused_iff (hn : Header.size < n) : (∃ c', (d.run rounds c).result = .ok (.error .capacity, c')) ↔
    d.Tells c.settings.timeout ∧ ((∃ count settled, (d.settle rounds c).result = .ok (.ok count, settled)) ∧
      min (n - Header.size) maxPayload < d.ask.message.payload.length ∨ d.Fails rounds c .capacity) := by
  constructor
  · rintro ⟨c', hrun⟩
    refine ⟨run_tells hrun, ?_⟩
    obtain htimeout | hfails | ⟨count, settled, refused, hsettle, hstart⟩ := run_error hrun
    · cases htimeout
    · exact .inr hfails
    · refine .inl ⟨⟨count, settled, hsettle⟩, ?_⟩
      obtain ⟨_, hidle⟩ := d.ask.start_idle hn (settle_idle hsettle)
      by_contra hshort
      rw [if_neg hshort] at hidle
      cases hidle.symm.trans hstart
  · rintro ⟨htells, ⟨⟨count, settled, hsettle⟩, hlong⟩ | hfails⟩
    · obtain ⟨begun, hstart⟩ := d.ask.start_idle hn (settle_idle hsettle)
      rw [if_pos hlong] at hstart
      exact run_unbegun htells (begin_settled hsettle hstart)
    · exact hfails.run htells

end Demand

/-! ## What is seen of a call -/

/-- The caller, with the calls to its medium kept from now on. -/
def logged (c : Caller n δ) : Caller n (Logbook δ) :=
  ⟨{ c.endpoint with link := c.endpoint.link.map fun medium => ⟨medium, []⟩ }, c.settings⟩

/-- To forget the calls that were kept. -/
def unlogged : Erasure (Logbook δ) δ ResponseSlot ResponseSlot where
  medium := Logbook.medium
  handler := id
  armReceive _ _ := rfl
  armSend _ _ := rfl
  pollReceive _ _ := rfl
  pollSend _ _ := by
    simp only [Medium.pollSend, Functor.map_map]
    exact (id_map _).symm
  onMessage _ _ _ := by
    simp only [Handler.onMessage, map_bind, map_pure]
    rfl
  onSent _ _ := rfl
  slot _ := rfl
  setSlot _ _ := rfl

omit [CallFailure φ] in
theorem unlogged_logged (c : Caller n δ) : unlogged.caller c.logged = c := rfl

/-- The calls to the medium are kept without a difference to the call. -/
theorem run_logged (c : Caller n δ) (d : Demand) : d.run rounds c = unlogged.onCaller <$> d.run rounds c.logged := by
  rw [← unlogged.run, unlogged_logged]

theorem Untimed.logged {d : Demand} (h : Untimed (d.run rounds c)) : Untimed (d.run rounds c.logged) := by
  intro p hlogged
  rw [run_logged] at h
  have hreported := h (unlogged.onCaller p) (Run.result_bind_eq_ok.mpr ⟨p, hlogged, rfl⟩)
  rw [Run.events_map] at hreported
  exact hreported

namespace Demand

/-- What is seen of a call: its result, the calls that it makes to the medium, and the caller that it leaves. -/
def seen (rounds : Nat) (c : Caller n δ) (d : Demand) :
    Run (Except CallError Message × List Medium.Call × Caller n δ) := do
  let (result, c) ← d.run rounds c.logged
  pure (result, c.endpoint.link.medium.calls, (unlogged.caller c).tidied)

/-- What is seen of a call does not depend on what is left in an idle buffer. -/
theorem seen_eq (rounds : Nat) (c : Caller n δ) (d : Demand) : d.seen rounds c =
    (fun p => (p.1, p.2.endpoint.link.medium.calls, unlogged.caller p.2)) <$>
      (fun p => (p.1, p.2.tidied)) <$> d.run rounds c.logged := by
  rw [Functor.map_map, map_eq_pure_bind]
  rfl

/-- Every call whose deadline can be told returns unless it runs out of turns, a call whose deadline cannot be told does
nothing but stop, and keeping the calls to the medium makes no difference. Of a call by a message and of one by the
request that it is the message of, the same is seen. Of a cooperative call the same is seen too, if neither is ended by
a timeout. A call comes to a refusal exactly if it settles and its payload is longer than the buffer or the length field
allow, or if its medium fails in a way that is a refusal to it. -/
theorem forms_agree (hn : Header.size < n) (rounds : Nat) (c : Caller n δ) (clock : Clock) (channel : UInt8)
    (r : Request) :
    (∀ d : Demand, (d.Tells c.settings.timeout → (d.run rounds c).Returns) ∧
      (¬d.Tells c.settings.timeout → d.run rounds c = Run.stop .noDeadline) ∧
      d.run rounds c = unlogged.onCaller <$> d.run rounds c.logged) ∧
      (blocking clock (.raw (r.message channel))).seen rounds c = (blocking clock (.request channel r)).seen rounds c ∧
      (∀ cut, clock.Tells c.settings.timeout → Untimed ((blocking clock (.request channel r)).run rounds c) →
        Untimed ((cooperative cut channel r).run rounds c) →
        (cooperative cut channel r).seen rounds c = (blocking clock (.request channel r)).seen rounds c) ∧
      ∀ d : Demand, d.ask.message = r.message channel → ((∃ c', (d.run rounds c).result = .ok (.error .capacity, c')) ↔
        d.Tells c.settings.timeout ∧ ((∃ count settled, (d.settle rounds c).result = .ok (.ok count, settled)) ∧
          min (n - Header.size) maxPayload < r.layout.length ∨ d.Fails rounds c .capacity)) := by
  refine ⟨fun d => ⟨run_returns ResponseSlot.returns hn c, run_untold, run_logged c d⟩, ?_, ?_, ?_⟩
  · rw [seen_eq, seen_eq]
    exact congrArg _ (call_tidied (Nat.le_of_lt hn) c.logged)
  · intro cut htells hblocking hcooperative
    have hcalm : (cooperative cut channel r).run rounds c.logged = c.logged.calmCall rounds channel r :=
      run_calm rfl trivial hcooperative.logged
    have hcalm' : (blocking clock (.request channel r)).run rounds c.logged = c.logged.calmCall rounds channel r :=
      run_calm rfl htells hblocking.logged
    rw [seen, seen, hcalm, hcalm']
  · intro d hask
    rw [refused_iff hn, hask]
    rfl

/-- A line that takes the rest of an old frame in its own time, while a message comes that nobody waits for any more.
The response comes with the second frame. -/
def laggingLine : Bench.Script where
  reads := [.fail .wouldBlock, .bytes [7, 0x81, 0, 0, 0], .fail .wouldBlock]
  writes := [.accept (some 1), .fail .wouldBlock, .accept none, .accept (some 4), .fail .wouldBlock]
  onFlush := [[], [.fail .wouldBlock, .bytes [2, 0x84, 0, 0, 4, 0, 9, 8, 7]]]

/-- A caller that gave up an earlier call after two bytes of its frame. -/
def laggingCaller : Caller 16 (StreamMedium Bench.Script) :=
  ⟨⟨⟨⟨laggingLine, 0, 2⟩, .zeroed 16, some 5, false⟩, .zeroed 16, .header, { expected := some (7, 0x81) }, 0⟩, {}⟩

def swap : Request :=
  .spiTransfer ⟨[1, 2, 3]⟩

/-- A clock on which the deadline of a second passes between the eighth look and the ninth. -/
def afterEight : Clock :=
  .showing fun looks => 125 * looks

/-- A clock that can tell no moment after the one at which the call begins. -/
def atItsEnd : Clock :=
  ⟨7, fun _ => 7, 7⟩

/-- A call that returns a message is not ended by the timeout. -/
theorem untimed_of_ok {α σ τ : Type} {x : Run (Except CallError α × σ)} {f : σ → τ} {a : α} {t : τ}
    (h : x.result.toOption.map (fun p => (p.1, f p.2)) = some (.ok a, t)) : Untimed x := by
  intro p hresult htimeout
  obtain ⟨q, hok, hvalue⟩ := Option.map_eq_some_iff.mp h
  cases hresult.symm.trans (Outcomes.toOption_eq_some.mp hok)
  obtain ⟨hfirst, _⟩ := Prod.mk.inj hvalue
  cases htimeout.symm.trans hfirst

theorem lagging_blocking : ((blocking afterEight (.request 0 swap)).run 20 laggingCaller).result.toOption.map
    (fun p => (p.1, p.2.slot)) = some (.ok ⟨2, 0x84, 0, [0, 9, 8, 7]⟩, ⟨none, none, 1⟩) := by
  cbv

theorem lagging_cooperative : ((cooperative (CallSettings.cuts {}) 0 swap).run 20 laggingCaller).result.toOption.map
    (fun p => (p.1, p.2.slot)) = some (.ok ⟨2, 0x84, 0, [0, 9, 8, 7]⟩, ⟨none, none, 1⟩) := by
  cbv

theorem forms_agree_lagging : Header.size < 16 ∧ afterEight.Tells laggingCaller.settings.timeout ∧
    ¬atItsEnd.Tells laggingCaller.settings.timeout ∧
    Untimed ((blocking afterEight (.request 0 swap)).run 20 laggingCaller) ∧
    Untimed ((cooperative (CallSettings.cuts {}) 0 swap).run 20 laggingCaller) ∧
    (blocking atItsEnd (.request 0 swap)).run 20 laggingCaller = Run.stop .noDeadline ∧
    (blocking afterEight (.raw (swap.message 0))).seen 20 laggingCaller =
      (blocking afterEight (.request 0 swap)).seen 20 laggingCaller ∧
    (cooperative (CallSettings.cuts {}) 0 swap).seen 20 laggingCaller =
      (blocking afterEight (.request 0 swap)).seen 20 laggingCaller ∧
    ¬∃ c', ((blocking afterEight (.raw (swap.message 0))).run 20 laggingCaller).result =
      .ok (.error .capacity, c') := by
  have hn : Header.size < 16 := by decide
  have htells : afterEight.Tells laggingCaller.settings.timeout := by decide
  have huntold : ¬atItsEnd.Tells laggingCaller.settings.timeout := by decide
  have hblocking := untimed_of_ok lagging_blocking
  have hcooperative := untimed_of_ok lagging_cooperative
  obtain ⟨hevery, hraw, hcoop, hrefused⟩ := forms_agree hn 20 laggingCaller afterEight 0 swap
  refine ⟨hn, htells, huntold, hblocking, hcooperative, (hevery (blocking atItsEnd (.request 0 swap))).2.1 huntold,
    hraw, hcoop _ htells hblocking hcooperative, fun hcapacity => ?_⟩
  obtain ⟨_, ⟨_, hlong⟩ | ⟨_, _, failure, _, _, hfailure⟩⟩ :=
    (hrefused (blocking afterEight (.raw (swap.message 0))) rfl).mp hcapacity
  · exact absurd hlong (by decide)
  · cases hfailure

/-- A line that breaks before anything is read from it. -/
def brokenCaller : Caller 16 (StreamMedium Bench.Script) :=
  ⟨⟨.idle ⟨{ reads := [.fail .brokenPipe] }, 0, 0⟩, .zeroed 16, .header, {}, 0⟩, {}⟩

/-- A request that fits in no frame is not refused if the line breaks while the caller settles. -/
theorem long_request_unrefused :
    min (16 - Header.size) maxPayload < (Request.spiWrite ⟨List.replicate 12 0⟩).layout.length ∧
      ∃ c', (brokenCaller.call 10 (.showing fun _ => 0) 0 (.spiWrite ⟨List.replicate 12 0⟩)).result =
        .ok (.error (.bus .brokenPipe), c') := by
  refine ⟨by decide, ?_⟩
  have hrun :
      (brokenCaller.call 10 (.showing fun _ => 0) 0 (.spiWrite ⟨List.replicate 12 0⟩)).result.toOption.map Prod.fst =
      some (.error (.bus .brokenPipe)) := by
    cbv
  obtain ⟨⟨result, c'⟩, hok, rfl⟩ := Option.map_eq_some_iff.mp hrun
  exact ⟨c', Outcomes.toOption_eq_some.mp hok⟩

end Demand

end Caller

end BusBridge

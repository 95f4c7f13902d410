import BusBridge.Proofs.Calls
/-!
# Forgetting what was recorded

To say what a caller was given, or what its medium was told, one watches them: the handler and the medium are wrapped in
ones that keep a record and pass everything on. An `Erasure` takes such a pair back to the plain one. It commutes with
each operation of a medium and of a handler, and so it commutes with all that is built from them, up to whole calls
(`Erasure.run`): the watched call has the same events as the plain one, is stopped by the same fault, and gives the same
result.

Each law follows its definition, part for part; `Run.bind_map_congr` is the one rule for what comes after what.
-/

namespace BusBridge

variable {n : Nat} {δ δ' η η' : Type}

/-! ## Runs that correspond -/

namespace Run

variable {α β γ ε σ σ' : Type} {k : α → Run γ} {g : γ → ε}

theorem bind_map_congr {x : Run α} {y : Run β} {f : α → β} {k' : β → Run ε} (hx : y = f <$> x)
    (hk : ∀ a, k' (f a) = g <$> k a) : y >>= k' = g <$> (x >>= k) := by
  rw [hx, bind_map_left, map_bind]
  exact bind_congr hk

theorem bind_map_same {x : Run α} {k' : α → Run ε} (hk : ∀ a, k' a = g <$> k a) : x >>= k' = g <$> (x >>= k) := by
  rw [map_bind]
  exact bind_congr hk

end Run

/-- A turn whose state and last value are replaced. -/
def Turn.map {σ σ' α β : Type} (f : σ → σ') (g : α → β) : Turn σ α → Turn σ' β
  | again s => again (f s)
  | done a => done (g a)

/-- Loops correspond if their turns do. -/
theorem Run.loop_map {σ σ' α β : Type} {body : σ → Run (Turn σ α)} {body' : σ' → Run (Turn σ' β)} {f : σ → σ'}
    {g : α → β} (turn : ∀ s, body' (f s) = Turn.map f g <$> body s) (limit : Nat) (s : σ) :
    loop body' limit (f s) = g <$> loop body limit s := by
  induction limit generalizing s with
  | zero => rfl
  | succ limit ih =>
    rw [loop_succ, loop_succ]
    refine bind_map_congr (turn s) fun t => ?_
    cases t with
    | again s' => exact ih s'
    | done a => rfl

/-- Turns of a loop are turns of the one that corresponds to it. -/
theorem Run.Turns.map {σ σ' α β : Type} {body : σ → Run (Turn σ α)} {body' : σ' → Run (Turn σ' β)} {f : σ → σ'}
    {g : α → β} (turn : ∀ s, body' (f s) = Turn.map f g <$> body s) {s s' : σ} {count : Nat}
    (h : Turns body s count s') :
    Turns body' (f s) count (f s') := by
  induction h with
  | start => exact .start
  | again _ hturn ih =>
    refine .again ih ?_
    rw [turn, map_eq_pure_bind, result_bind, hturn]
    rfl

/-! ## Erasures -/

/-- The link on another medium. -/
def Link.map (f : δ' → δ) (l : Link n δ') : Link n δ :=
  { l with medium := f l.medium }

/-- A way to forget a part of a medium and of the handler of a caller that nothing else depends on. -/
structure Erasure (δ' δ η' η : Type) {φ : Type} [Medium δ' φ] [Medium δ φ] [Handler η'] [Handler η] [KeepsSlot η']
    [KeepsSlot η] where
  medium : δ' → δ
  handler : η' → η
  armReceive : ∀ m size, Medium.armReceive (medium m) size = medium (Medium.armReceive m size)
  armSend : ∀ m size, Medium.armSend (medium m) size = medium (Medium.armSend m size)
  pollReceive : ∀ m block, Medium.pollReceive (medium m) block =
    ((Medium.pollReceive m block).1, (Medium.pollReceive m block).2.1, medium (Medium.pollReceive m block).2.2)
  pollSend : ∀ m frame, Medium.pollSend (medium m) frame = (fun r => (r.1, medium r.2)) <$> Medium.pollSend m frame
  onMessage : ∀ {n : Nat} (h : η') (m : Message) (l : Link n δ'), Handler.onMessage (handler h) m (l.map medium) =
    (fun r => (handler r.1, r.2.map medium)) <$> Handler.onMessage h m l
  onSent : ∀ {n : Nat} (h : η') (l : Link n δ'), Handler.onSent (handler h) (l.map medium) =
    (fun r => (handler r.1, r.2.map medium)) <$> Handler.onSent h l
  slot : ∀ h, KeepsSlot.slot (handler h) = KeepsSlot.slot h
  setSlot : ∀ h s, KeepsSlot.setSlot (handler h) s = handler (KeepsSlot.setSlot h s)

namespace Erasure

variable {φ : Type} [Medium δ' φ] [Medium δ φ] [Handler η'] [Handler η] [KeepsSlot η'] [KeepsSlot η]
  (p : Erasure δ' δ η' η) {α : Type}

def link (l : Link n δ') : Link n δ :=
  l.map p.medium

def endpoint (e : Endpoint n δ' η') : Endpoint n δ η :=
  { e with link := p.link e.link, handler := p.handler e.handler }

def caller (c : Caller n δ' η') : Caller n δ η :=
  ⟨p.endpoint c.endpoint, c.settings⟩

/-! ## Links -/

/-- The result of an operation on a link. -/
def onLink (r : α × Link n δ') : α × Link n δ :=
  (r.1, p.link r.2)

theorem start (l : Link n δ') (size : Nat) :
    (liftM ((p.link l).start size) : Run (Link n δ)) = p.link <$> (liftM (l.start size) : Run (Link n δ')) := by
  unfold Link.start link Link.map Medium.beginSend
  simp only [p.armSend]
  cases l.dump <;> rfl

theorem commit (l : Link n δ') (component operation channel : UInt8) (length : Nat) :
    (p.link l).commit component operation channel length =
      p.onLink <$> l.commit component operation channel length := by
  refine Run.bind_map_same fun _ => ?_
  split
  · rfl
  · refine Run.bind_map_congr (p.start { l with buffer := l.buffer.overlay 0 _ } _) ?_
    exact fun _ => rfl

theorem sendMessage (l : Link n δ') (m : Message) : (p.link l).sendMessage m = p.onLink <$> l.sendMessage m := by
  refine Run.bind_map_same fun _ => ?_
  split
  · rfl
  · exact Run.bind_map_same fun _ => p.commit (l.writePayload m.payload) _ _ _ _

theorem sendRequest (l : Link n δ') (channel : UInt8) (r : Request) :
    (p.link l).sendRequest channel r = p.onLink <$> l.sendRequest channel r := by
  refine Run.bind_map_same fun _ => ?_
  have hpayload : (p.link l).payload = l.payload := rfl
  rw [hpayload]
  rcases (Draft.start l.payload).encode r.pieces with ⟨error | _, draft⟩
  · rfl
  · exact Run.bind_map_congr (p.commit (l.writePayload draft.block) _ _ _ _) fun _ => rfl

/-! ## Endpoints -/

/-- The result of an operation on an endpoint. -/
def onEndpoint (r : α × Endpoint n δ' η') : α × Endpoint n δ η :=
  (r.1, p.endpoint r.2)

theorem arm (e : Endpoint n δ' η') (reception : Reception) :
    (liftM ((p.endpoint e).arm reception) : Run (Endpoint n δ η)) =
      p.endpoint <$> (liftM (e.arm reception) : Run (Endpoint n δ' η')) := by
  unfold Endpoint.arm Medium.beginReceive
  simp only [endpoint, link, Link.map, p.armReceive]
  rfl

theorem deliver (e : Endpoint n δ' η') (h : Header) : (p.endpoint e).deliver h = p.endpoint <$> e.deliver h := by
  unfold Endpoint.deliver
  have hdump : (p.endpoint e).link.dump = e.link.dump := rfl
  by_cases hd : e.link.dump = true
  · simp only [hdump, hd, if_true]
    exact Run.bind_map_same fun _ => Run.bind_map_congr (p.onMessage e.handler _ e.link) fun _ => rfl
  · simp only [hdump, hd]
    exact Run.bind_map_congr (p.onMessage e.handler _ e.link) fun _ => rfl

theorem blockReceived (e : Endpoint n δ' η') : (p.endpoint e).blockReceived = p.onEndpoint <$> e.blockReceived := by
  unfold Endpoint.blockReceived
  have hreception : (p.endpoint e).reception = e.reception := rfl
  have hheader : (p.endpoint e).header = e.header := rfl
  have hcapacity : (p.endpoint e).capacity = e.capacity := rfl
  rw [hreception]
  cases e.reception with
  | header =>
    simp only [hheader, hcapacity]
    refine Run.bind_map_same fun _ => ?_
    split
    · exact Run.bind_map_congr (p.deliver e _) fun e₁ => Run.bind_map_congr (p.arm e₁ _) fun _ => rfl
    · split
      · refine Run.bind_map_same fun _ => ?_
        exact Run.bind_map_congr (p.arm { e with oversized := e.oversized.plus 1 } _) fun _ => rfl
      · exact Run.bind_map_congr (p.arm e _) fun _ => rfl
  | payload _ => exact Run.bind_map_congr (p.deliver e _) fun e₁ => Run.bind_map_congr (p.arm e₁ _) fun _ => rfl
  | skipping left => exact Run.bind_map_congr (p.arm e _) fun _ => rfl

theorem blockSent (e : Endpoint n δ' η') : (p.endpoint e).blockSent = p.endpoint <$> e.blockSent := by
  unfold Endpoint.blockSent
  have hsending : (p.endpoint e).link.sending = e.link.sending := rfl
  rw [hsending]
  cases e.link.sending with
  | none => rfl
  | some size =>
    refine Run.bind_map_same fun _ => ?_
    exact Run.bind_map_congr (p.onSent e.handler { e.link with sending := none }) fun _ => rfl

theorem endpoint_pollReceive (e : Endpoint n δ' η') : (p.endpoint e).pollReceive = p.onEndpoint <$> e.pollReceive := by
  unfold Endpoint.pollReceive
  have harmed : (p.endpoint e).armed = e.armed := rfl
  have hmedium : (p.endpoint e).link.medium = p.medium e.link.medium := rfl
  rw [harmed, hmedium, p.pollReceive]
  rcases Medium.pollReceive e.link.medium e.armed with ⟨kind | _ | _, block, medium⟩
  · rfl
  · rfl
  · refine Run.bind_map_congr (p.blockReceived { e.store 0 block with link.medium := medium }) ?_
    rintro ⟨_ | _, e₁⟩ <;> rfl

theorem endpoint_pollSend (e : Endpoint n δ' η') : (p.endpoint e).pollSend = p.onEndpoint <$> e.pollSend := by
  unfold Endpoint.pollSend
  have harmed : (p.endpoint e).link.armed? = e.link.armed? := rfl
  have hmedium : (p.endpoint e).link.medium = p.medium e.link.medium := rfl
  rw [harmed]
  cases e.link.armed? with
  | none => rfl
  | some frame =>
    have hpoll : (liftM (Medium.pollSend (p.endpoint e).link.medium frame) : Run (Except φ Bool × δ)) =
        (fun r => (r.1, p.medium r.2)) <$> (liftM (Medium.pollSend e.link.medium frame) : Run
          (Except φ Bool × δ')) := by
      rw [hmedium, p.pollSend]
      rfl
    refine Run.bind_map_congr hpoll ?_
    rintro ⟨kind | _ | _, medium⟩
    · rfl
    · rfl
    · exact Run.bind_map_congr (p.blockSent { e with link.medium := medium }) fun _ => rfl

theorem pollOnce (e : Endpoint n δ' η') : (p.endpoint e).pollOnce = p.onEndpoint <$> e.pollOnce := by
  refine Run.bind_map_congr (p.endpoint_pollSend e) ?_
  rintro ⟨_ | sent, e₁⟩
  · rfl
  · refine Run.bind_map_congr (p.endpoint_pollReceive e₁) ?_
    rintro ⟨_ | received, e₂⟩ <;> rfl

theorem poll (rounds : Nat) (e : Endpoint n δ' η') : (p.endpoint e).poll rounds = p.onEndpoint <$> e.poll rounds := by
  refine Run.loop_map (f := p.onEndpoint) ?_ rounds (false, e)
  rintro ⟨any, e⟩
  refine Run.bind_map_congr (p.pollOnce e) ?_
  rintro ⟨_ | _ | _, e₁⟩ <;> rfl

/-! ## Callers -/

/-- The result of an operation on a caller. -/
def onCaller (r : α × Caller n δ' η') : α × Caller n δ η :=
  (r.1, p.caller r.2)

theorem caller_slot (c : Caller n δ' η') : (p.caller c).slot = c.slot :=
  p.slot c.endpoint.handler

theorem caller_setSlot (c : Caller n δ' η') (s : ResponseSlot) : (p.caller c).setSlot s = p.caller (c.setSlot s) := by
  unfold Caller.setSlot
  simp only [caller, endpoint, p.setSlot]

theorem reset (c : Caller n δ' η') : (p.caller c).reset = p.caller c.reset := by
  rw [Caller.reset, caller_slot, caller_setSlot]
  rfl

theorem askStart (ask : Caller.Ask) (c : Caller n δ' η') : ask.start (p.caller c) = p.onCaller <$> ask.start c := by
  cases ask with
  | request channel r =>
    unfold Caller.Ask.start Caller.begin
    simp only [caller_slot, caller_setSlot]
    refine Run.bind_map_congr (p.sendRequest _ channel r) ?_
    rintro ⟨_ | _, link⟩
    · exact congrArg (fun c => pure (Except.error _, c)) (p.reset (Caller.setLink _ link))
    · rfl
  | raw m =>
    unfold Caller.Ask.start Caller.beginRaw
    simp only [caller_slot, caller_setSlot]
    refine Run.bind_map_congr (p.sendMessage _ m) ?_
    rintro ⟨_ | _, link⟩
    · exact congrArg (fun c => pure (Except.error _, c)) (p.reset (Caller.setLink _ link))
    · rfl

/-- The outcome of a look into the slot. -/
theorem look (c : Caller n δ' η') : (p.caller c).slot.take.1 = c.slot.take.1 ∧
    (p.caller c).setSlot (p.caller c).slot.take.2 = p.caller (c.setSlot c.slot.take.2) := by
  rw [caller_slot, caller_setSlot]
  exact ⟨rfl, rfl⟩

variable [CallFailure φ]

theorem step (rounds : Nat) (c : Caller n δ' η') : (p.caller c).step rounds = p.onCaller <$> c.step rounds := by
  refine Run.bind_map_congr (p.poll rounds c.endpoint) ?_
  rintro ⟨(_ | _) | _, e₁⟩ <;> rfl

theorem settle (rounds : Nat) (late : Nat → Bool) (c : Caller n δ' η') :
    (p.caller c).settle rounds late = p.onCaller <$> c.settle rounds late := by
  rw [Caller.settle, reset]
  refine Run.loop_map (f := p.onCaller) ?_ rounds (0, c.reset)
  rintro ⟨looks, c⟩
  refine Run.bind_map_congr (p.step rounds c) ?_
  rintro ⟨_ | progress, c₁⟩
  · rfl
  · have hsending : (p.caller c₁).endpoint.isSending = c₁.endpoint.isSending := rfl
    simp only [onCaller, hsending]
    split
    · rfl
    · split <;> rfl

theorem await (rounds : Nat) (late : Nat → Bool) (looks : Nat) (c : Caller n δ' η') :
    (p.caller c).await rounds late looks = p.onCaller <$> c.await rounds late looks := by
  refine Run.loop_map (f := p.onCaller) ?_ rounds (looks, c)
  rintro ⟨looks, c⟩
  refine Run.bind_map_congr (p.step rounds c) ?_
  rintro ⟨_ | progress, c₁⟩
  · exact congrArg (fun c => pure (Turn.done (Except.error _, c))) (p.reset c₁)
  · obtain ⟨htaken, hleft⟩ := p.look c₁
    simp only [onCaller, htaken, hleft]
    cases c₁.slot.take.1 with
    | some m => rfl
    | none =>
      simp only
      split
      · refine Run.bind_map_same fun _ => ?_
        exact congrArg (fun c => pure (Turn.done (Except.error _, c))) (p.reset _)
      · rfl

theorem exchange (rounds : Nat) (late : Nat → Bool) (ask : Caller.Ask) (c : Caller n δ' η') :
    (p.caller c).exchange rounds late ask.start = p.onCaller <$> c.exchange rounds late ask.start := by
  refine Run.bind_map_congr (p.settle rounds late c) ?_
  rintro ⟨_ | looks, settled⟩
  · rfl
  · refine Run.bind_map_congr (p.askStart ask settled) ?_
    rintro ⟨_ | _, begun⟩
    · rfl
    · exact p.await rounds late looks begun

/-- The result of a cooperative call, with its number of pauses. -/
def onPaused (r : α × Nat × Caller n δ' η') : α × Nat × Caller n δ η :=
  (r.1, r.2.1, p.caller r.2.2)

theorem settleCoop (rounds : Nat) (cut : Nat → Bool) (s : Nat × Caller n δ' η') :
    Run.loop (Caller.settleCoopTurn rounds cut) rounds (p.onCaller s) =
      p.onPaused <$> Run.loop (Caller.settleCoopTurn rounds cut) rounds s := by
  refine Run.loop_map ?_ rounds s
  rintro ⟨pauses, c⟩
  refine Run.bind_map_congr (p.step rounds c) ?_
  rintro ⟨_ | _ | _, c₁⟩
  · rfl
  · have hsending : (p.caller c₁).endpoint.isSending = c₁.endpoint.isSending := rfl
    simp only [onCaller, hsending]
    split
    · rfl
    · split <;> rfl
  · rfl

theorem awaitCoop (rounds : Nat) (cut : Nat → Bool) (s : Nat × Caller n δ' η') :
    Run.loop (Caller.awaitCoopTurn rounds cut) rounds (p.onCaller s) =
      p.onPaused <$> Run.loop (Caller.awaitCoopTurn rounds cut) rounds s := by
  refine Run.loop_map ?_ rounds s
  rintro ⟨pauses, c⟩
  refine Run.bind_map_congr (p.step rounds c) ?_
  rintro ⟨_ | progress, c₁⟩
  · rfl
  · obtain ⟨htaken, hleft⟩ := p.look c₁
    simp only [onCaller, htaken, hleft]
    cases c₁.slot.take.1 with
    | some m => rfl
    | none =>
      simp only
      split
      · rfl
      · split <;> rfl

theorem callCoop (rounds : Nat) (cut : Nat → Bool) (channel : UInt8) (r : Request) (c : Caller n δ' η') :
    (p.caller c).callCoop rounds cut channel r = p.onPaused <$> c.callCoop rounds cut channel r := by
  have hexchange :
      (p.caller c).exchangeCoop rounds cut channel r = p.onPaused <$> c.exchangeCoop rounds cut channel r := by
    unfold Caller.exchangeCoop
    rw [reset]
    refine Run.bind_map_congr (p.settleCoop rounds cut (0, c.reset)) ?_
    rintro ⟨_ | _, pauses, settled⟩
    · rfl
    · refine Run.bind_map_congr (p.askStart (.request channel r) settled) ?_
      rintro ⟨_ | _, begun⟩
      · rfl
      · exact p.awaitCoop rounds cut (pauses, begun)
  refine Run.bind_map_congr hexchange ?_
  rintro ⟨error | m, pauses, c₁⟩
  · have hlast :=
      congrArg (fun c => (pure (Except.error error, pauses, c) : Run (Except CallError Message × Nat × Caller n δ η)))
      (p.reset c₁)
    exact hlast
  · rfl

/-- A call of any kind does the same with the record and without it. -/
theorem run (rounds : Nat) (d : Caller.Demand) (c : Caller n δ' η') :
    d.run rounds (p.caller c) = p.onCaller <$> d.run rounds c := by
  cases d with
  | blocking clock ask =>
    have hsettings : (p.caller c).settings = c.settings := rfl
    rw [Caller.Demand.run, Caller.Demand.run, Caller.Ask.run_eq, Caller.Ask.run_eq, hsettings]
    by_cases htells : clock.Tells c.settings.timeout
    · rw [Clock.within_tells htells, Clock.within_tells htells]
      exact p.exchange rounds _ ask c
    · rw [Clock.within_untold htells, Clock.within_untold htells]
      rfl
  | cooperative cut channel r => exact Run.bind_map_congr (p.callCoop rounds cut channel r c) fun _ => rfl

end Erasure

end BusBridge

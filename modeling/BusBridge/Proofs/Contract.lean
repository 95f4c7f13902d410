import BusBridge.Proofs.Dialogues
/-!
# The contract between an endpoint and its medium

A medium transfers whole blocks, so it relies on what it is told: the block that it is polled for is the one that was
armed, and a frame stays as it is until it is sent or given up. `Logbook` keeps the calls that a medium gets,
`Medium.Orders` is what it can know from them, and `Medium.Lawful` says that every call keeps to that.

An endpoint changes in a few small steps (`Endpoint.Step`), and everything that an owner can do is made of them
(`Endpoint.Act.run_passes`). Each step keeps the two states of an endpoint in line with its buffers, over any medium
(`Endpoint.Sound.step`), and over one with a logbook it keeps them in line with the orders of the medium, too
(`Endpoint.Contract.step`). So both hold wherever an endpoint can get (`Endpoint.contract_kept`), for every handler that
sends through its link.
-/

namespace BusBridge

/-! ## What a medium is told -/

namespace Medium

/-- A call to a medium. -/
inductive Call where
  | armReceive (size : Nat)
  | armSend (size : Nat)
  | cancelSend
  | pollReceive (block : Bytes)
  | pollSend (frame : Bytes)
deriving DecidableEq

def Call.isStart : Call → Bool
  | armSend _ => true
  | _ => false

/-- What a medium knows from its calls. -/
structure Orders where
  /-- size of the block that was armed last for reception -/
  receive : Option Nat := none
  /-- size of the frame that was armed last for emission -/
  send : Option Nat := none
  /-- that frame, once it was shown -/
  shown : Option Bytes := none

namespace Orders

def after (o : Orders) : Call → Orders
  | .armReceive size => { o with receive := some size }
  | .armSend size => { o with send := some size, shown := none }
  | .pollSend frame => { o with shown := some frame }
  | .cancelSend | .pollReceive _ => o

/-- The call keeps to what was armed. -/
def Admits (o : Orders) : Call → Prop
  | .armReceive size => 0 < size
  | .armSend size => Header.size ≤ size
  | .cancelSend => o.send.isSome = true
  | .pollReceive block => o.receive = some block.length
  | .pollSend frame => o.send = some frame.length ∧ (o.shown = none ∨ o.shown = some frame)

def of (calls : List Call) : Orders :=
  calls.foldl after {}

@[simp] theorem of_snoc (calls : List Call) (call : Call) : of (calls ++ [call]) = (of calls).after call :=
  List.foldl_concat ..

end Orders

/-- Each call keeps to what the calls before it have armed. -/
inductive Lawful : List Call → Prop where
  | nil : Lawful []
  | snoc {calls : List Call} {call : Call} : Lawful calls → (Orders.of calls).Admits call → Lawful (calls ++ [call])

end Medium

/-- A medium with the calls that it got, the first one first. -/
structure Logbook (δ : Type) where
  medium : δ
  calls : List Medium.Call := []

namespace Logbook

variable {δ : Type}

def orders (b : Logbook δ) : Medium.Orders :=
  .of b.calls

/-- Number of frames that were started. -/
def starts (b : Logbook δ) : Nat :=
  b.calls.countP Medium.Call.isStart

/-- The logbook after a call that left the medium as given. -/
def enter (b : Logbook δ) (call : Medium.Call) (medium : δ) : Logbook δ :=
  ⟨medium, b.calls ++ [call]⟩

instance {φ : Type} [Medium δ φ] : Medium (Logbook δ) φ where
  armReceive b size := b.enter (.armReceive size) (Medium.armReceive b.medium size)
  armSend b size := b.enter (.armSend size) (Medium.armSend b.medium size)
  cancelSend b := b.enter .cancelSend <$> Medium.cancelSend b.medium
  pollReceive b block :=
    let (result, filled, medium) := Medium.pollReceive b.medium block
    (result, filled, b.enter (.pollReceive block) medium)
  pollSend b frame :=
    (fun (result, medium) => (result, b.enter (.pollSend frame) medium)) <$> Medium.pollSend b.medium frame

theorem starts_enter (b : Logbook δ) (call : Medium.Call) (medium : δ) :
    (b.enter call medium).starts = b.starts + if call.isStart then 1 else 0 := by
  rw [starts, enter, List.countP_append, List.countP_singleton, starts]

theorem orders_enter (b : Logbook δ) (call : Medium.Call) (medium : δ) :
    (b.enter call medium).orders = b.orders.after call :=
  Medium.Orders.of_snoc b.calls call

variable {φ : Type} [Medium δ φ] (b : Logbook δ)

@[simp] theorem orders_armReceive (size : Nat) :
    (Medium.armReceive b size).orders = { b.orders with receive := some size } :=
  b.orders_enter _ _

@[simp] theorem orders_armSend (size : Nat) :
    (Medium.armSend b size).orders = { b.orders with send := some size, shown := none } :=
  b.orders_enter _ _

@[simp] theorem orders_cancelSend : (Medium.cancelSend b).value.orders = b.orders :=
  b.orders_enter .cancelSend _

@[simp] theorem orders_pollReceive (block : Bytes) : (Medium.pollReceive b block).2.2.orders = b.orders :=
  b.orders_enter (.pollReceive block) _

@[simp] theorem orders_pollSend (frame : Bytes) :
    (Medium.pollSend b frame).value.2.orders = { b.orders with shown := some frame } :=
  b.orders_enter (.pollSend frame) _

end Logbook

/-! ## The steps of an endpoint -/

namespace Endpoint

variable {n : Nat} {δ η φ : Type} [Medium δ φ]

/-- A step that an endpoint can take. What becomes of the handler does not matter here. -/
inductive Step (e : Endpoint n δ η) : Endpoint n δ η → Prop where
  /-- the handler or the owner used the link -/
  | used {link : Link n δ} (handler : η) : e.link.Used link → Step e { e with handler, link }
  /-- bytes were written into the armed block -/
  | store (offset : Nat) (data : Bytes) : Step e (e.store offset data)
  | proceeds {reception : Reception} : e.verdict = .proceed reception → Step e (e.arm reception).value
  | refuses {length : Nat} : e.verdict = .refuse length →
      Step e (arm { e with oversized := e.oversized.plus 1 } (.skipping length)).value
  /-- a frame was handed over -/
  | renews : Step e (e.arm .header).value
  | pollReceive : Step e { e with link.medium := (Medium.pollReceive e.link.medium e.armed).2.2 }
  | pollSend {frame : Bytes} : e.link.armed? = some frame →
      Step e { e with link.medium := (Medium.pollSend e.link.medium frame).value.2 }
  | sent {size : Nat} : e.link.sending = some size → Step e { e with link.sending := none }
  | abandons : Step e { e with link := e.link.abandon.value }
  | dump : Step e e.enableDump

/-- The endpoint gets there by steps. -/
abbrev Passes : Endpoint n δ η → Endpoint n δ η → Prop :=
  Relation.ReflTransGen Step

variable [Handler η] [UsesLink η] {e e' : Endpoint n δ η}

theorem blockReceived_passes {result : Except Oversized Unit} (hrun : e.blockReceived.result = .ok (result, e')) :
    e.Passes e' := by
  rw [blockReceived_result] at hrun
  cases hverdict : e.verdict with
  | deliver =>
    rw [hverdict] at hrun
    obtain ⟨e₁, hdeliver, hrest⟩ := Outcomes.bind_eq_ok.mp hrun
    rw [deliver_result, Outcomes.bind_eq_ok] at hdeliver
    obtain ⟨⟨handler, link⟩, hmessage, hlast⟩ := hdeliver
    cases hlast
    cases hrest
    exact .tail (.single (.used handler (UsesLink.onMessage hmessage))) .renews
  | refuse length =>
    rw [hverdict] at hrun
    cases hrun
    exact .single (.refuses hverdict)
  | proceed reception =>
    rw [hverdict] at hrun
    cases hrun
    exact .single (.proceeds hverdict)

theorem blockSent_passes (hrun : e.blockSent.result = .ok e') : e.Passes e' := by
  cases hsending : e.link.sending with
  | none =>
    unfold blockSent at hrun
    rw [hsending] at hrun
    cases hrun
    exact .refl
  | some size =>
    have harmed : e.link.armed? = some (e.link.buffer.slice 0 size) := by
      rw [Link.armed?, hsending]
      rfl
    rw [blockSent_result harmed, Outcomes.bind_eq_ok] at hrun
    obtain ⟨⟨handler, link⟩, hsent, hrest⟩ := hrun
    cases hrest
    exact .tail (.single (.sent hsending)) (.used handler (UsesLink.onSent hsent))

theorem pollReceive_passes {result : Except (PollError φ) Bool} (hrun : e.pollReceive.result = .ok (result, e')) :
    e.Passes e' := by
  unfold Endpoint.pollReceive at hrun
  have hpolled := Step.pollReceive (e := e)
  rcases hpoll : Medium.pollReceive e.link.medium e.armed with ⟨received, block, medium⟩
  rw [hpoll] at hpolled
  have hstored := Relation.ReflTransGen.tail (.single hpolled) (Step.store 0 block)
  simp only [hpoll] at hrun
  rcases received with kind | done
  · cases hrun
    exact hstored
  · cases done with
    | false =>
      cases hrun
      exact hstored
    | true =>
      obtain ⟨⟨reported, e₁⟩, hreport, hrest⟩ := Run.result_bind_eq_ok.mp hrun
      have hreported := hstored.trans (blockReceived_passes hreport)
      cases reported <;> cases hrest <;> exact hreported

theorem pollSend_passes {result : Except (PollError φ) Bool} (hrun : e.pollSend.result = .ok (result, e')) :
    e.Passes e' := by
  unfold Endpoint.pollSend at hrun
  cases hframe : e.link.armed? with
  | none =>
    simp only [hframe] at hrun
    cases hrun
    exact .refl
  | some frame =>
    have hpolled := Step.pollSend hframe
    simp only [hframe, Run.result_bind, Run.result_lift, Outcomes.ok_bind] at hrun
    rcases hpoll : (Medium.pollSend e.link.medium frame).value with ⟨kind | done, medium⟩
    · rw [hpoll] at hrun hpolled
      cases hrun
      exact .single hpolled
    · rw [hpoll] at hrun hpolled
      cases done with
      | false =>
        cases hrun
        exact .single hpolled
      | true =>
        obtain ⟨e₁, hsent, hrest⟩ := Run.result_bind_eq_ok.mp hrun
        cases hrest
        exact .trans (.single hpolled) (blockSent_passes hsent)

theorem poll_passes {rounds : Nat} {result : Except (PollError φ) Bool}
    (hrun : (e.poll rounds).result = .ok (result, e')) :
    e.Passes e' := by
  refine poll_keeps (fun _ e' => e.Passes e') ?_ ?_ [] .refl hrun
  · intro _ _ _ _ h hsend
    exact h.trans (pollSend_passes hsend)
  · intro _ _ _ _ h hreceive
    exact h.trans (pollReceive_passes hreceive)

end Endpoint

/-! ## Using a link -/

namespace Link

variable {n : Nat} {δ : Type}

/-- The frame on the link has a header and fits in the buffer. -/
def Sized (l : Link n δ) : Prop :=
  ∀ size, l.sending = some size → Header.size ≤ size ∧ size ≤ n

theorem Sized.length {l : Link n δ} {frame : Bytes} (h : l.Sized) (harmed : l.armed? = some frame) :
    l.sending = some frame.length := by
  obtain ⟨size, hsending, rfl⟩ := Option.map_eq_some_iff.mp harmed
  have hle := (h size hsending).2
  have hlength : (l.buffer.slice 0 size).length = size := by
    simp only [Buffer.slice, Bytes.length_slice, l.buffer.length_bytes]
    omega
  rw [hlength, hsending]

theorem sized_idle {l : Link n δ} (h : l.sending = none) : l.Sized := by
  intro size hsending
  rw [h] at hsending
  cases hsending

variable {φ : Type} [Medium δ φ] {l l₁ l₂ : Link n δ}

theorem abandon_value_idle (h : l.sending = none) : l.abandon.value = l := by
  rw [abandon, isBusy, h]
  rfl

theorem abandon_value_busy {size : Nat} (h : l.sending = some size) :
    l.abandon.value = { l with medium := (Medium.cancelSend l.medium).value, sending := none } := by
  rw [abandon, isBusy, h]
  rfl

theorem sized_of_send {frame : Bytes} {result : Except TooLarge Unit}
    (hrun : (l.send frame).result = .ok (result, l₁)) :
    l₁.Sized := by
  obtain ⟨hidle, hrest⟩ := idle_of_requireIdle hrun
  by_cases hshort : frame.length < Header.size
  · simp only [if_pos hshort] at hrest
    obtain ⟨_, hstop, _⟩ := Run.result_bind_eq_ok.mp hrest
    cases hstop
  · by_cases hlong : frame.length > n
    · simp only [if_neg hshort, if_pos hlong] at hrest
      cases hrest
      exact sized_idle hidle
    · simp only [if_neg hshort, if_neg hlong, Run.result_bind, Run.result_lift, Outcomes.ok_bind, start_value,
        Run.result_pure] at hrest
      cases hrest
      intro size hsize
      cases hsize
      exact ⟨Nat.le_of_not_lt hshort, Nat.le_of_not_lt hlong⟩

theorem sized_of_commit {component operation channel : UInt8} {length : Nat} {result : Except TooLarge Unit}
    (hn : Header.size < n) (hrun : (l.commit component operation channel length).result = .ok (result, l₁)) :
    l₁.Sized := by
  obtain ⟨hidle, hrest⟩ := idle_of_requireIdle hrun
  by_cases hfull : length > n - Header.size ∨ length > maxPayload
  · rw [if_pos hfull] at hrest
    cases hrest
    exact sized_idle hidle
  · simp only [if_neg hfull, Run.result_bind, Run.result_lift, Outcomes.ok_bind, start_value, Run.result_pure] at hrest
    cases hrest
    intro size hsize
    cases hsize
    omega

theorem Used.sized (hn : Header.size < n) (h : l.Used l₁) (hsized : l.Sized) : l₁.Sized := by
  cases h with
  | refl => exact hsized
  | writePayload data _ hidle => exact sized_idle hidle
  | send _ hrun => exact sized_of_send hrun
  | commit _ hrun => exact sized_of_commit hn hrun

/-- A request is written in place and committed. -/
theorem Used.sendRequest {channel : UInt8} {r : Request} {result : Except CapacityError Unit} (h : l.Used l₁)
    (hrun : (l₁.sendRequest channel r).result = .ok (result, l₂)) : l.Used l₂ := by
  obtain ⟨hidle, hrest⟩ := idle_of_requireIdle hrun
  split at hrest
  · cases hrest
    exact h.writePayload _ hidle
  · obtain ⟨⟨committed, l₃⟩, hcommit, hlast⟩ := Run.result_bind_eq_ok.mp hrest
    cases hlast
    exact (h.writePayload _ hidle).commit hcommit

theorem Used.start {s : Start} {accepted : Bool} (hrun : (s.run l).result = .ok (accepted, l₁)) : l.Used l₁ := by
  cases s with
  | bytes frame =>
    obtain ⟨⟨result, l₂⟩, hsend, hrest⟩ := Run.result_bind_eq_ok.mp hrun
    cases hrest
    exact Used.refl.send hsend
  | message m =>
    obtain ⟨⟨result, l₂⟩, hsend, hrest⟩ := Run.result_bind_eq_ok.mp hrun
    cases hrest
    exact Used.refl.sendMessage hsend
  | request channel r =>
    obtain ⟨⟨result, l₂⟩, hsend, hrest⟩ := Run.result_bind_eq_ok.mp hrun
    cases hrest
    exact Used.refl.sendRequest hsend
  | commit component operation channel length =>
    obtain ⟨⟨result, l₂⟩, hsend, hrest⟩ := Run.result_bind_eq_ok.mp hrun
    cases hrest
    exact Used.refl.commit hsend

end Link

/-! ## What an owner does -/

namespace Endpoint

/-- Something that the owner of an endpoint does. -/
inductive Act where
  | use (u : Use)
  /-- write into the block that is armed for reception -/
  | store (offset : Nat) (data : Bytes)
  /-- report all frames -/
  | dump

variable {n : Nat} {δ η φ : Type} [Medium δ φ] [Handler η] {e e' : Endpoint n δ η}

def Act.run (e : Endpoint n δ η) : Act → Run (Endpoint n δ η)
  | use u => u.run e
  | store offset data => pure (e.store offset data)
  | dump => pure e.enableDump

def Act.runAll (e : Endpoint n δ η) (acts : List Act) : Run (Endpoint n δ η) :=
  acts.foldlM run e

variable [UsesLink η]

/-- Everything that an owner does is made of steps. -/
theorem Act.run_passes {act : Act} (hrun : (act.run e).result = .ok e') : e.Passes e' := by
  cases act with
  | store offset data =>
    cases hrun
    exact .single (.store offset data)
  | dump =>
    cases hrun
    exact .single .dump
  | use u =>
    cases u with
    | write data =>
      obtain ⟨hidle, hrest⟩ := Link.idle_of_requireIdle hrun
      cases hrest
      exact .single (.used e.handler (Link.Used.refl.writePayload data hidle))
    | start s =>
      obtain ⟨⟨accepted, link⟩, hstart, hrest⟩ := Run.result_bind_eq_ok.mp hrun
      cases hrest
      exact .single (.used e.handler (.start hstart))
    | drive d =>
      cases d with
      | receive =>
        obtain ⟨⟨result, e₁⟩, hpoll, hrest⟩ := Run.result_bind_eq_ok.mp hrun
        cases hrest
        exact pollReceive_passes hpoll
      | send =>
        obtain ⟨⟨result, e₁⟩, hpoll, hrest⟩ := Run.result_bind_eq_ok.mp hrun
        cases hrest
        exact pollSend_passes hpoll
      | both rounds =>
        obtain ⟨⟨result, e₁⟩, hpoll, hrest⟩ := Run.result_bind_eq_ok.mp hrun
        cases hrest
        exact poll_passes hpoll
      | accept data =>
        obtain ⟨⟨result, e₁⟩, haccept, hrest⟩ := Run.result_bind_eq_ok.mp hrun
        cases hrest
        exact .trans (.single (.store 0 data)) (blockReceived_passes haccept)
      | sent => exact blockSent_passes hrun
      | abandon =>
        cases hrun
        exact .single .abandons

theorem Act.runAll_passes {acts : List Act} (hrun : (runAll e acts).result = .ok e') : e.Passes e' := by
  refine Run.foldlM_keeps (fun e' => e.Passes e') ?_ .refl hrun
  intro act _ e₁ e₂ hpasses hact
  exact hpasses.trans (run_passes hact)

end Endpoint

/-! ## The contract -/

namespace Link

variable {n : Nat} {δ : Type}

/-- The sending half of the contract: the frame on the link is the one that the medium was told of last, and the one
that it has seen since. -/
structure Bound (l : Link n (Logbook δ)) : Prop where
  told : ∀ frame, l.armed? = some frame → l.medium.orders.send = some frame.length ∧
    (l.medium.orders.shown = none ∨ l.medium.orders.shown = some frame)
  lawful : Medium.Lawful l.medium.calls

namespace Bound

/-- A frame that was sent is gone, without a word to the medium. -/
theorem sent {l : Link n (Logbook δ)} (h : l.Bound) : Bound { l with sending := none } :=
  ⟨nofun, h.lawful⟩

variable {φ : Type} [Medium δ φ] {l l₁ : Link n (Logbook δ)} {frame : Bytes}

theorem starts (h : l.Bound) (hstarts : l.Starts l₁ frame) (hsized : l₁.Sized) : l₁.Bound := by
  have hsize := (hsized _ (hsized.length hstarts.armed)).1
  refine ⟨?_, ?_⟩
  · intro frame' harmed
    cases hstarts.armed.symm.trans harmed
    rw [hstarts.medium, Logbook.orders_armSend]
    exact ⟨rfl, .inl rfl⟩
  · rw [hstarts.medium]
    exact h.lawful.snoc hsize

/-- Whatever is done with the link, it keeps the contract, and the reception is left alone. -/
theorem used (hn : Header.size < n) (h : l.Bound) (hused : l.Used l₁) (hsized : l₁.Sized) :
    l₁.Bound ∧ l₁.medium.orders.receive = l.medium.orders.receive := by
  cases hsending : l.sending with
  | some size =>
    rw [hused.busy hsending]
    exact ⟨h, rfl⟩
  | none =>
    obtain ⟨hidle, hmedium⟩ | ⟨frame, hstarts⟩ := hused.starts hn hsending
    · rw [hmedium]
      refine ⟨⟨?_, hmedium ▸ h.lawful⟩, rfl⟩
      intro frame harmed
      rw [armed?_idle hidle] at harmed
      cases harmed
    · refine ⟨h.starts hstarts hsized, ?_⟩
      rw [hstarts.medium, Logbook.orders_armSend]

theorem armReceive (h : l.Bound) {size : Nat} (hpos : 0 < size) :
    Bound { l with medium := Medium.armReceive l.medium size } where
  told frame harmed := by
    rw [Logbook.orders_armReceive]
    exact h.told frame harmed
  lawful := h.lawful.snoc hpos

theorem pollReceive (h : l.Bound) {block : Bytes} (hblock : l.medium.orders.receive = some block.length) :
    Bound { l with medium := (Medium.pollReceive l.medium block).2.2 } where
  told frame harmed := by
    rw [Logbook.orders_pollReceive]
    exact h.told frame harmed
  lawful := h.lawful.snoc hblock

theorem pollSend (h : l.Bound) (harmed : l.armed? = some frame) :
    Bound { l with medium := (Medium.pollSend l.medium frame).value.2 } where
  told frame' harmed' := by
    cases harmed.symm.trans harmed'
    rw [Logbook.orders_pollSend]
    exact ⟨(h.told frame harmed).1, .inr rfl⟩
  lawful := h.lawful.snoc (h.told frame harmed)

theorem abandons (h : l.Bound) : l.abandon.value.Bound ∧
    l.abandon.value.medium.orders.receive = l.medium.orders.receive := by
  cases hsending : l.sending with
  | none =>
    rw [abandon_value_idle hsending]
    exact ⟨h, rfl⟩
  | some size =>
    have harmed : l.armed? = some (l.buffer.slice 0 size) := by
      rw [armed?, hsending]
      rfl
    have htold : l.medium.orders.send.isSome = true := by
      rw [(h.told _ harmed).1]
      rfl
    rw [abandon_value_busy hsending]
    refine ⟨⟨?_, h.lawful.snoc htold⟩, by rw [Logbook.orders_cancelSend]⟩
    intro frame harmed'
    cases harmed'

end Bound

end Link

/-- What an endpoint can be waiting for, with the header in its receive buffer. -/
def Reception.Valid (n : Nat) (h : Header) : Reception → Prop
  | .header => True
  | .payload length => 0 < length ∧ length ≤ n - Header.size ∧ length = h.length.toNat
  | .skipping left => 0 < left ∧ left ≤ maxPayload

namespace Endpoint

variable {n : Nat} {δ η : Type}

theorem waits_of_valid {e : Endpoint n δ η} (hn : Header.size < n) (h : e.reception.Valid n e.header) : e.Waits := by
  cases hreception : e.reception with
  | header => exact waits_of_header hn hreception
  | payload length =>
    rw [hreception] at h
    obtain ⟨hpos, hfits, _⟩ := h
    refine ⟨?_, ?_⟩ <;> simp only [armedSize, hreception, Reception.offset, Reception.size] <;> omega
  | skipping left =>
    rw [hreception] at h
    obtain ⟨hpos, _⟩ := h
    refine ⟨?_, ?_⟩ <;> simp only [armedSize, hreception, Reception.offset, Reception.size, capacity] <;> omega

/-- What comes of a complete block is something that can be waited for, and a frame that is handed over lies in the
receive buffer. -/
def Verdict.Valid (n : Nat) (h : Header) : Verdict → Prop
  | .deliver => Header.size + h.length.toNat ≤ n
  | .refuse length => (Reception.skipping length).Valid n h
  | .proceed reception => reception.Valid n h

theorem valid_verdict {e : Endpoint n δ η} (hn : Header.size < n) (h : e.reception.Valid n e.header) :
    e.verdict.Valid n e.header := by
  have hmax : e.header.length.toNat ≤ maxPayload := Nat.le_of_lt_succ e.header.length.toNat_lt
  unfold verdict
  cases hreception : e.reception with
  | header =>
    simp only
    by_cases hzero : e.header.length.toNat = 0
    · rw [if_pos hzero, Verdict.Valid, hzero]
      exact Nat.le_of_lt hn
    · by_cases hlong : e.header.length.toNat > e.capacity
      · rw [if_neg hzero, if_pos hlong]
        exact ⟨Nat.pos_of_ne_zero hzero, hmax⟩
      · rw [if_neg hzero, if_neg hlong]
        exact ⟨Nat.pos_of_ne_zero hzero, Nat.le_of_not_lt hlong, rfl⟩
  | payload length =>
    rw [hreception] at h
    obtain ⟨_, hfits, hlength⟩ := h
    rw [hlength] at hfits
    show Header.size + e.header.length.toNat ≤ n
    omega
  | skipping left =>
    rw [hreception] at h
    simp only
    by_cases hlast : left - e.capacity = 0
    · rw [if_pos hlast]
      trivial
    · rw [if_neg hlast]
      exact ⟨Nat.pos_of_ne_zero hlast, Nat.le_trans (Nat.sub_le _ _) h.2⟩

/-- A header is read from the first bytes. -/
theorem read?_take : (bytes : Bytes) → Header.read? (bytes.take Header.size) = Header.read? bytes
  | [] | [_] | [_, _] | [_, _, _] | [_, _, _, _] => rfl
  | component :: operation :: channel :: high :: low :: rest => by
    rw [Framing.read?_cons]
    exact Framing.read?_cons component operation channel high low []

/-- Bytes behind the header do not change it. -/
theorem header_store {e : Endpoint n δ η} (hn : Header.size < n) (h : e.reception.offset = Header.size) (offset : Nat)
    (data : Bytes) : (e.store offset data).header = e.header := by
  have hroom : Header.size ≤ (e.inbox.bytes.take (Header.size + offset)).length := by
    rw [List.length_take, e.inbox.length_bytes]
    omega
  have hfront : (e.store offset data).inbox.bytes.take Header.size = e.inbox.bytes.take Header.size := by
    simp only [store, Buffer.overlay, h, Bytes.overlay_eq]
    rw [List.take_append_of_le_length hroom, List.take_take, Nat.min_eq_left (Nat.le_add_right _ _)]
  rw [header, header, ← read?_take, hfront, read?_take]

theorem valid_store {e : Endpoint n δ η} (hn : Header.size < n) (h : e.reception.Valid n e.header) (offset : Nat)
    (data : Bytes) : (e.store offset data).reception.Valid n (e.store offset data).header := by
  show e.reception.Valid n _
  cases hreception : e.reception with
  | header => trivial
  | payload length =>
    rw [hreception] at h
    rw [header_store hn (by rw [hreception]; rfl)]
    exact h
  | skipping left =>
    rw [hreception] at h
    exact h

/-- The two states of an endpoint agree with its buffers. -/
structure Sound (e : Endpoint n δ η) : Prop where
  reception : e.reception.Valid n e.header
  sending : e.link.Sized

theorem Sound.store {e : Endpoint n δ η} (hn : Header.size < n) (h : e.Sound) (offset : Nat) (data : Bytes) :
    (e.store offset data).Sound :=
  ⟨valid_store hn h.reception offset data, h.sending⟩

/-- Whatever an endpoint cuts out of its buffers, or writes into them, lies inside. -/
structure InRange {φ : Type} [Medium δ φ] (e : Endpoint n δ η) : Prop where
  /-- the block that is armed for reception, which is not empty -/
  armed : e.Waits
  /-- the frame that is handed over if the block is complete -/
  delivered : e.verdict.Valid n e.header
  /-- the frame on the link -/
  sending : ∀ size, e.link.sending = some size → size ≤ n
  /-- a frame that is started, which is on the link as a whole then -/
  started : ∀ (s : Start) (link : Link n δ), (s.run e.link).result = .ok (true, link) →
    link.armed? = some (s.frame e.link) ∧ (s.frame e.link).length ≤ n

/-- From one moment to the next, the frame on the link stays as it is, or it is gone. -/
def KeepsFrame (e e' : Endpoint n δ η) : Prop :=
  e.link.armed? = none ∨ e'.link.armed? = e.link.armed? ∨ e'.link.armed? = none

section Media

variable {φ : Type} [Medium δ φ] {e e' : Endpoint n δ η}

/-- Every step keeps the states in line. -/
theorem Sound.step (hn : Header.size < n) (h : e.Sound) (hstep : e.Step e') : e'.Sound := by
  cases hstep with
  | used handler hused => exact ⟨h.reception, hused.sized hn h.sending⟩
  | store offset data => exact h.store hn offset data
  | proceeds hverdict =>
    have hvalid := valid_verdict hn h.reception
    rw [hverdict] at hvalid
    exact ⟨hvalid, h.sending⟩
  | refuses hverdict =>
    have hvalid := valid_verdict hn h.reception
    rw [hverdict] at hvalid
    exact ⟨hvalid, h.sending⟩
  | renews => exact ⟨trivial, h.sending⟩
  | pollReceive | pollSend | dump => exact ⟨h.reception, h.sending⟩
  | sent => exact ⟨h.reception, Link.sized_idle rfl⟩
  | abandons =>
    cases hsending : e.link.sending with
    | none =>
      rw [Link.abandon_value_idle hsending]
      exact h
    | some size =>
      rw [Link.abandon_value_busy hsending]
      exact ⟨h.reception, Link.sized_idle rfl⟩

theorem Sound.passes (hn : Header.size < n) (h : e.Sound) (hpasses : e.Passes e') : e'.Sound := by
  induction hpasses with
  | refl => exact h
  | tail _ hstep ih => exact ih.step hn hstep

theorem Sound.inRange (hn : Header.size < n) (h : e.Sound) : e.InRange where
  armed := waits_of_valid hn h.reception
  delivered := valid_verdict hn h.reception
  sending size hsending := (h.sending size hsending).2
  started s link hrun := by
    have hsized := (Link.Used.start hrun).sized hn h.sending
    obtain ⟨_, hstarts⟩ | ⟨hfalse, _⟩ := s.run_cases hn hrun
    · exact ⟨hstarts.armed, (hsized _ (hsized.length hstarts.armed)).2⟩
    · cases hfalse

theorem Step.keepsFrame (hstep : e.Step e') : e.KeepsFrame e' := by
  cases hstep with
  | used handler hused =>
    cases hsending : e.link.sending with
    | none => exact .inl (Link.armed?_idle hsending)
    | some size =>
      rw [hused.busy hsending]
      exact .inr (.inl rfl)
  | sent => exact .inr (.inr rfl)
  | abandons =>
    cases hsending : e.link.sending with
    | none => exact .inl (Link.armed?_idle hsending)
    | some size =>
      rw [Link.abandon_value_busy hsending]
      exact .inr (.inr rfl)
  | store | proceeds | refuses | renews | pollReceive | pollSend | dump => exact .inr (.inl rfl)

/-- A new endpoint waits for a header, and is idle. -/
theorem sound_attach {medium : δ} {handler : η} (hattach : (attach n medium handler).result = .ok e) :
    Header.size < n ∧ e.Sound := by
  obtain ⟨hn, rfl⟩ := attach_ok hattach
  exact ⟨hn, trivial, Link.sized_idle rfl⟩

end Media

/-- The contract of an endpoint with its medium. -/
structure Contract (e : Endpoint n (Logbook δ) η) : Prop where
  sound : e.Sound
  receive : e.link.medium.orders.receive = some e.armed.length
  link : e.link.Bound

theorem Contract.store {e : Endpoint n (Logbook δ) η} (hn : Header.size < n) (h : e.Contract) (offset : Nat)
    (data : Bytes) :
    (e.store offset data).Contract := by
  have hsound := h.sound.store hn offset data
  refine ⟨hsound, ?_, h.link⟩
  rw [length_armed (waits_of_valid hn hsound.reception).room]
  exact h.receive.trans (congrArg some (length_armed (waits_of_valid hn h.sound.reception).room))

/-- From one moment to a later one, the frame on the link stays as it is until it is gone, unless another one was
started. -/
structure Steady (e e' : Endpoint n (Logbook δ) η) : Prop where
  starts : e.link.medium.starts ≤ e'.link.medium.starts
  frame : e'.link.medium.starts = e.link.medium.starts → e'.link.armed? = e.link.armed? ∨ e'.link.armed? = none

theorem Steady.trans {e e₁ e' : Endpoint n (Logbook δ) η} (h : e.Steady e₁) (h₁ : e₁.Steady e') : e.Steady e' := by
  refine ⟨Nat.le_trans h.starts h₁.starts, ?_⟩
  intro hsame
  have hle := h.starts
  have hle₁ := h₁.starts
  obtain hframe | hgone := h₁.frame (by omega)
  · rw [hframe]
    exact h.frame (by omega)
  · exact .inr hgone

/-- A call that leaves the frame on the link alone, or takes it away. -/
theorem Steady.quiet {e e' : Endpoint n (Logbook δ) η} {medium : δ} (call : Medium.Call)
    (hmedium : e'.link.medium = e.link.medium.enter call medium)
    (hframe : e'.link.armed? = e.link.armed? ∨ e'.link.armed? = none) : e.Steady e' := by
  refine ⟨?_, fun _ => hframe⟩
  rw [hmedium, Logbook.starts_enter]
  exact Nat.le_add_right _ _

variable {φ : Type} [Medium δ φ] {e e' : Endpoint n (Logbook δ) η}

/-- What is armed is what the endpoint waits for. -/
theorem Contract.arm {reception : Reception} (hn : Header.size < n) (hlink : e.link.Bound)
    (hsound : (e.arm reception).value.Sound) : (e.arm reception).value.Contract := by
  have hwaits := waits_of_valid hn hsound.reception
  refine ⟨hsound, ?_, hlink.armReceive hwaits.pos⟩
  rw [length_armed hwaits.room]
  exact congrArg Medium.Orders.receive (e.link.medium.orders_armReceive _)

/-- Every step keeps the contract. -/
theorem Contract.step (hn : Header.size < n) (h : e.Contract) (hstep : e.Step e') : e'.Contract := by
  have hsound := h.sound.step hn hstep
  cases hstep with
  | used handler hused =>
    obtain ⟨hlink, hreceive⟩ := h.link.used hn hused hsound.sending
    exact ⟨hsound, hreceive.trans h.receive, hlink⟩
  | store offset data => exact h.store hn offset data
  | proceeds => exact .arm hn h.link hsound
  | refuses => exact Contract.arm (e := { e with oversized := e.oversized.plus 1 }) hn h.link hsound
  | renews => exact .arm hn h.link hsound
  | pollReceive =>
    refine ⟨hsound, ?_, h.link.pollReceive h.receive⟩
    rw [Logbook.orders_pollReceive]
    exact h.receive
  | pollSend harmed =>
    refine ⟨hsound, ?_, h.link.pollSend harmed⟩
    rw [Logbook.orders_pollSend]
    exact h.receive
  | sent => exact ⟨hsound, h.receive, h.link.sent⟩
  | abandons =>
    obtain ⟨hlink, hreceive⟩ := h.link.abandons
    exact ⟨hsound, hreceive.trans h.receive, hlink⟩
  | dump => exact ⟨hsound, h.receive, ⟨h.link.told, h.link.lawful⟩⟩

theorem Steady.step (hn : Header.size < n) (hstep : e.Step e') : e.Steady e' := by
  cases hstep with
  | @used link handler hused =>
    cases hsending : e.link.sending with
    | some size =>
      rw [hused.busy hsending]
      exact ⟨Nat.le_refl _, fun _ => .inl rfl⟩
    | none =>
      obtain ⟨hidle, hmedium⟩ | ⟨frame, hstarts⟩ := hused.starts hn hsending
      · exact ⟨Nat.le_of_eq (by rw [hmedium]), fun _ => .inr (Link.armed?_idle hidle)⟩
      · have hmore : link.medium.starts = e.link.medium.starts + 1 := by
          rw [hstarts.medium]
          exact Logbook.starts_enter ..
        refine ⟨hmore ▸ Nat.le_succ _, ?_⟩
        intro hsame
        exact absurd (hmore.symm.trans hsame) (Nat.succ_ne_self _)
  | store offset data => exact ⟨Nat.le_refl _, fun _ => .inl rfl⟩
  | proceeds | refuses | renews => exact .quiet (.armReceive _) rfl (.inl rfl)
  | pollReceive => exact .quiet (.pollReceive e.armed) rfl (.inl rfl)
  | @pollSend frame _ => exact .quiet (.pollSend frame) rfl (.inl rfl)
  | sent => exact ⟨Nat.le_refl _, fun _ => .inr rfl⟩
  | abandons =>
    cases hsending : e.link.sending with
    | none =>
      rw [Link.abandon_value_idle hsending]
      exact ⟨Nat.le_refl _, fun _ => .inl rfl⟩
    | some size =>
      rw [Link.abandon_value_busy hsending]
      exact .quiet .cancelSend rfl (.inr rfl)
  | dump => exact ⟨Nat.le_refl _, fun _ => .inl rfl⟩

theorem Steady.passes (hn : Header.size < n) (h : e.Passes e') : e.Steady e' := by
  induction h with
  | refl => exact ⟨Nat.le_refl _, fun _ => .inl rfl⟩
  | tail _ hstep ih => exact ih.trans (.step hn hstep)

theorem Contract.passes (hn : Header.size < n) (h : e.Contract) (hpasses : e.Passes e') : e'.Contract := by
  induction hpasses with
  | refl => exact h
  | tail _ hstep ih => exact ih.step hn hstep

/-- A new endpoint has told its medium of the first header, and nothing else. -/
theorem contract_attach {medium : δ} {handler : η}
    (hattach : (attach n (⟨medium, []⟩ : Logbook δ) handler).result = .ok e) :
    e.Contract := by
  obtain ⟨hn, hsound⟩ := sound_attach hattach
  obtain ⟨_, rfl⟩ := attach_ok hattach
  refine ⟨hsound, ?_, nofun, .snoc .nil (by decide : 0 < Header.size)⟩
  rw [length_armed (waits_of_header hn rfl).room]
  rfl

/-- Wherever an endpoint can get, and at every moment on the way, its states agree with its buffers: it waits for a
header, for a payload that fits and that the header in its buffer declares, or for the rest of a frame that is too long;
it is idle or has a frame that fits; all that it cuts out of its buffers lies inside; and no step changes the frame on
the link but to take it away. Over a medium with a logbook it keeps the contract, too: the medium was told the sizes of
the armed block and of the frame on the link, and was never polled for anything else. -/
theorem contract_kept [Handler η] [UsesLink η] {medium : δ} {handler : η} {e₀ : Endpoint n δ η}
    {b₀ : Endpoint n (Logbook δ) η}
    (hattach : (attach n medium handler).result = .ok e₀)
    (hlogged : (attach n (⟨medium, []⟩ : Logbook δ) handler).result = .ok b₀) :
    (∀ (acts : List Act) (e : Endpoint n δ η), (Act.runAll e₀ acts).result = .ok e → e₀.Passes e) ∧
      (∀ (acts : List Act) (b : Endpoint n (Logbook δ) η), (Act.runAll b₀ acts).result = .ok b → b₀.Passes b) ∧
      (∀ e, e₀.Passes e → e.Sound ∧ e.InRange ∧ ∀ e', e.Step e' → e.KeepsFrame e') ∧
      ∀ b, b₀.Passes b → b.Contract ∧ ∀ b', b.Passes b' → b.Steady b' := by
  obtain ⟨hn, hsound⟩ := sound_attach hattach
  have hcontract := contract_attach hlogged
  refine ⟨fun acts e => Act.runAll_passes, fun acts b => Act.runAll_passes, ?_, ?_⟩
  · intro e hpasses
    have hstill := hsound.passes hn hpasses
    exact ⟨hstill, hstill.inRange hn, fun e' => Step.keepsFrame⟩
  · intro b hpasses
    exact ⟨hcontract.passes hn hpasses, fun b' => .passes hn⟩

/-- A header and a payload arrive in pieces while a frame of the owner is on the link. -/
def crossing : List Act :=
  [.use (.start (.message ⟨7, 1, 0, [9]⟩)), .store 0 [1, 2, 3, 0], .store 4 [2], .use (.drive (.accept [])),
    .store 1 [6], .use (.drive .send), .use (.drive (.accept [5]))]

theorem contract_kept_crossing : ∃ (e₀ e : Endpoint 16 Detached ResponseSlot)
    (b₀ b : Endpoint 16 (Logbook Detached) ResponseSlot),
    (attach 16 (⟨⟩ : Detached) ({} : ResponseSlot)).result = .ok e₀ ∧
      (attach 16 (⟨⟨⟩, []⟩ : Logbook Detached) ({} : ResponseSlot)).result = .ok b₀ ∧
      (Act.runAll e₀ crossing).result = .ok e ∧ (Act.runAll b₀ crossing).result = .ok b ∧
      b.link.medium.calls = [.armReceive 5, .armSend 6, .armReceive 2, .pollSend [7, 1, 0, 0, 1, 9], .armReceive 5] ∧
      e.Sound ∧ e.InRange ∧ b.Contract ∧ b₀.Steady b := by
  obtain ⟨e₀, hattach⟩ : ∃ e₀, (attach 16 (⟨⟩ : Detached) ({} : ResponseSlot)).result = .ok e₀ := ⟨_, rfl⟩
  obtain ⟨b₀, hlogged⟩ : ∃ b₀, (attach 16 (⟨⟨⟩, []⟩ : Logbook Detached) ({} : ResponseSlot)).result = .ok b₀ := ⟨_, rfl⟩
  have hplain : (Act.runAll e₀ crossing).result.toOption.isSome = true := by
    cases hattach
    cbv
  have hrun : (Act.runAll b₀ crossing).result.toOption.map (fun b => b.link.medium.calls) =
      some [.armReceive 5, .armSend 6, .armReceive 2, .pollSend [7, 1, 0, 0, 1, 9], .armReceive 5] := by
    cases hlogged
    cbv
  obtain ⟨e, he⟩ := Option.isSome_iff_exists.mp hplain
  have he := Outcomes.toOption_eq_some.mp he
  obtain ⟨b, hb, hcalls⟩ := Option.map_eq_some_iff.mp hrun
  have hb := Outcomes.toOption_eq_some.mp hb
  obtain ⟨hpasses, hpasses', hsound, hkept⟩ := contract_kept hattach hlogged
  obtain ⟨hstill, hrange, _⟩ := hsound e (hpasses crossing e he)
  obtain ⟨_, hsteady⟩ := hkept b₀ .refl
  have hreached := hpasses' crossing b hb
  exact ⟨e₀, e, b₀, b, hattach, hlogged, he, hb, hcalls, hstill, hrange, (hkept b hreached).1, hsteady b hreached⟩

end Endpoint

end BusBridge

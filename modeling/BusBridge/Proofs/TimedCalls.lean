import BusBridge.Caller.Timed
import BusBridge.Proofs.Calls
import BusBridge.Proofs.Hearing
import BusBridge.Proofs.Polling
/-!
# Calls over a stream in time, under a tap

A timed caller counts the bytes of the armed block itself, so its state between two waits is that of an
endpoint that tracks the bytes read from the stream (`TimedCaller.Tracks`). Each piece of a call keeps it so,
however the piece ends, and the handler hears the frames that were completed meanwhile (`TimedCaller.Listens`):
receiving by the laws of the reception, sending because it reads nothing.

What a piece can do is said once: `TimedCaller.Sends` for a turn of sending, `TimedCaller.Prepared` for a call up
to its frame, `TimedCaller.Exchanged` for the whole of it. Put together they say what the slot hears during a
call (`TimedCaller.Hears`). On a stream without a tap a call still breaks no rule of use (`TimedCaller.call_returns`).
-/

namespace BusBridge

open Framing

/-! ## A timed stream under a tap -/

namespace Tap

variable {τ : Type} [TimedStream τ]

instance : TimedStream (Tap τ) where
  now t := TimedStream.now t.stream
  read t deadline want :=
    match TimedStream.read t.stream deadline want with
    | (some (.ok bytes), stream) => (some (.ok (bytes.take want)), ⟨stream, .taken (bytes.take want) :: t.log⟩)
    | (result, stream) => (result, ⟨stream, t.log⟩)
  write t deadline bytes :=
    match TimedStream.write t.stream deadline bytes with
    | (some (.ok count), stream) => (some (.ok count), ⟨stream, .given (bytes.take count) :: t.log⟩)
    | (result, stream) => (result, ⟨stream, t.log⟩)
  flush t deadline := do
    match ← TimedStream.flush t.stream deadline with
    | (some (.ok _), stream) => pure (some (.ok ()), ⟨stream, .flushed :: t.log⟩)
    | (result, stream) => pure (result, ⟨stream, t.log⟩)

/-- The bytes that a read gave. -/
def bytesOf : Option (Except IoKind Bytes) → Bytes
  | some (.ok bytes) => bytes
  | _ => []

/-- A tap knows what was read from it, and that it was not more than wanted. -/
theorem read_taken (t : Tap τ) (deadline want : Nat) :
    (TimedStream.read t deadline want).2.taken = t.taken ++ bytesOf (TimedStream.read t deadline want).1 ∧
      (bytesOf (TimedStream.read t deadline want).1).length ≤ want := by
  simp only [TimedStream.read]
  split
  next bytes stream hinner =>
    refine ⟨?_, List.length_take_le _ _⟩
    simp [taken, bytesOf]
  next result stream hother hinner =>
    have hnone : bytesOf result = [] := by
      rcases result with _ | _ | bytes
      · rfl
      · rfl
      · exact absurd rfl (hother bytes)
    rw [hnone, List.append_nil]
    exact ⟨rfl, Nat.zero_le _⟩

/-- The number of bytes that a write accepted. -/
def countOf : Option (Except IoKind Nat) → Nat
  | some (.ok count) => count
  | _ => 0

/-- Writing takes nothing from a tap. -/
theorem write_taken (t : Tap τ) (deadline : Nat) (bytes : Bytes) :
    (TimedStream.write t deadline bytes).2.taken = t.taken := by
  simp only [TimedStream.write]
  split
  next count stream hinner => simp [taken]
  next => rfl

theorem flush_taken (t : Tap τ) (deadline : Nat) : (TimedStream.flush t deadline).value.2.taken = t.taken := by
  simp only [TimedStream.flush, Trace.value_bind]
  split
  next stream hinner => simp [taken]
  next => rfl

end Tap

namespace TimedCaller

variable {n : Nat} {τ η : Type}

/-- The bytes read from the stream. -/
def taken (c : TimedCaller n (Tap τ) η) : Bytes :=
  c.stream.taken

/-- The endpoint stands in its frame where the parse of the bytes ends. -/
def Tracks (c : TimedCaller n (Tap τ) η) : Prop :=
  c.endpoint.Holds c.received (parse c.taken).2

/-- The second caller is the first one after its handler heard what arrived meanwhile. -/
structure Listens [Handler η] [ListensOnly η] (c c' : TimedCaller n (Tap τ) η) : Prop where
  tracks : c'.Tracks
  heard : Heard (n - Header.size) c.taken c'.taken c.endpoint.handler c'.endpoint.handler

variable {c c₁ c' : TimedCaller n (Tap τ) η} {rounds deadline : Nat}

/-- Nothing has happened to the caller. -/
structure Fresh (c : TimedCaller n (Tap τ) η) (stream : Tap τ) (handler : η) : Prop where
  stream : c.stream = stream
  received : c.received = 0
  sent : c.sent = 0
  reception : c.endpoint.reception = .header
  idle : c.endpoint.link.armed? = none
  handler : c.endpoint.handler = handler

theorem attachWith_ok {stream : Tap τ} {settings : CallSettings} {handler : η}
    (h : (attachWith n stream settings handler).result = .ok c) : Header.size < n ∧ c.Fresh stream handler := by
  obtain ⟨e, he, hrest⟩ := Run.result_bind_eq_ok.mp h
  obtain ⟨hn, rfl⟩ := Endpoint.attach_ok he
  cases hrest
  refine ⟨hn, ?_⟩
  cases settings.dump with
  | true => exact ⟨rfl, rfl, rfl, rfl, rfl, rfl⟩
  | false => exact ⟨rfl, rfl, rfl, rfl, rfl, rfl⟩

theorem Fresh.tracks {stream : Tap τ} {handler : η} (h : c.Fresh stream handler) (hnone : c.taken = []) : c.Tracks := by
  unfold Tracks
  rw [hnone, h.received, parse_unfinished unfinished_nil]
  exact .fresh h.reception

/-- What is in the slot does not matter to the reception. -/
theorem Tracks.setSlot [KeepsSlot η] (h : c.Tracks) (slot : ResponseSlot) : (c.setSlot slot).Tracks :=
  Endpoint.Holds.congr h rfl rfl

/-- The second caller is the first one but for its emission. -/
structure Quiet (c c' : TimedCaller n (Tap τ) η) : Prop where
  taken : c'.taken = c.taken
  received : c'.received = c.received
  reception : c'.endpoint.reception = c.endpoint.reception
  inbox : c'.endpoint.inbox = c.endpoint.inbox
  handler : c'.endpoint.handler = c.endpoint.handler

theorem Quiet.trans (h₁ : c.Quiet c₁) (h₂ : c₁.Quiet c') : c.Quiet c' :=
  ⟨h₂.taken.trans h₁.taken, h₂.received.trans h₁.received, h₂.reception.trans h₁.reception, h₂.inbox.trans h₁.inbox,
    h₂.handler.trans h₁.handler⟩

theorem Quiet.slot [KeepsSlot η] (h : c.Quiet c') : c'.slot = c.slot :=
  congrArg KeepsSlot.slot h.handler

theorem Quiet.tracks (h : c.Quiet c') (htracks : c.Tracks) : c'.Tracks := by
  unfold Tracks
  rw [h.taken, h.received]
  exact Endpoint.Holds.congr htracks h.reception h.inbox

section

variable [Handler η] [ListensOnly η]

theorem Tracks.listens (h : c.Tracks) : c.Listens c :=
  ⟨h, .refl⟩

theorem Listens.trans (h₁ : c.Listens c₁) (h₂ : c₁.Listens c') : c.Listens c' :=
  ⟨h₂.tracks, h₁.heard.trans h₂.heard⟩

theorem Quiet.listens (h : c.Quiet c') (htracks : c.Tracks) : c.Listens c' := by
  refine ⟨h.tracks htracks, ?_⟩
  rw [h.taken, h.handler]
  exact .refl

end

/-- Beginning makes the slot wait, and touches only the emission besides. -/
theorem begin_quiet [KeepsSlot η] {channel : UInt8} {r : Request} {result : Except Interruption Unit}
    (h : (c.begin channel r).result = .ok (result, c')) :
    (c.setSlot (c.slot.expect r.command.component (responseTo r.command.operation))).Quiet c' := by
  obtain ⟨⟨sent, link⟩, hsend, hrest⟩ := Run.result_bind_eq_ok.mp h
  cases hrest
  exact ⟨rfl, rfl, rfl, rfl, rfl⟩

/-! ## The parts of a call -/

theorem setSlot_slot {σ : Type} [KeepsSlot η] (c : TimedCaller n σ η) : c.setSlot c.slot = c := by
  rw [TimedCaller.setSlot, slot, KeepsSlot.setSlot_slot]

section Parts

variable {σ : Type} [TimedStream σ] [Handler η] {c c' : TimedCaller n σ η}

/-- A turn of dropping receives, and is the last one if that is cut off or fails. -/
theorem dropTurn_cases {turn : Turn (TimedCaller n σ η) (Except Interruption Unit × TimedCaller n σ η)}
    (h : (dropTurn rounds deadline c).result = .ok turn) :
    match turn with
    | .again c' => (c.receive rounds (TimedStream.now c.stream)).result = .ok (.ok (), c')
    | .done r => ∃ stop, (c.receive rounds (TimedStream.now c.stream)).result = .ok (.error stop, r.2) := by
  obtain ⟨⟨received, c₁⟩, hreceive, hrest⟩ := Run.result_bind_eq_ok.mp h
  rcases received with stop | _
  · cases stop <;> cases hrest <;> exact ⟨_, hreceive⟩
  · cases hrest
    exact hreceive

variable [KeepsSlot η]

/-- A turn of waiting takes the response out of the slot, or receives. -/
theorem awaitTurn_cases {turn : Turn (TimedCaller n σ η) (Except Interruption Message × TimedCaller n σ η)}
    (h : (awaitTurn rounds deadline c).result = .ok turn) :
    match turn with
    | .again c' => (c.receive rounds deadline).result = .ok (.ok (), c')
    | .done r => (∃ m, c.slot.response = some m ∧ r = (.ok m, c.setSlot c.slot.take.2)) ∨
        ∃ stop c', (c.receive rounds deadline).result = .ok (.error stop, c') ∧ r = (.error stop, c') := by
  unfold awaitTurn at h
  cases hslot : c.slot.response with
  | some m =>
    simp only [ResponseSlot.take, hslot] at h
    cases h
    exact .inl ⟨m, rfl, rfl⟩
  | none =>
    have hkept : c.setSlot c.slot.take.2 = c := by
      rw [ResponseSlot.take_none hslot, setSlot_slot]
    have hnone : c.slot.take.1 = none := hslot
    simp only [hkept, hnone] at h
    obtain ⟨⟨received, c₁⟩, hreceive, hrest⟩ := Run.result_bind_eq_ok.mp h
    cases received with
    | error stop =>
      cases hrest
      exact .inr ⟨stop, c₁, hreceive, rfl⟩
    | ok _ =>
      cases hrest
      exact hreceive

/-- The moment at which a call that is made now is given up. -/
def due (c : TimedCaller n σ η) : Nat :=
  TimedStream.now c.stream + c.settings.timeout.milliseconds

/-- A call up to the moment at which its frame was started. -/
def prepare (rounds : Nat) (c : TimedCaller n σ η)
    (channel : UInt8) (r : Request) : Run (Except Interruption Unit × TimedCaller n σ η) := do
  let deadline := TimedStream.now c.stream + c.settings.timeout.milliseconds
  match ← c.sendFrame rounds deadline with
  | (.error stop, c) => pure (.error stop, c)
  | (.ok _, c) =>
    match ← c.dropInput rounds deadline with
    | (.error stop, c) => pure (.error stop, c)
    | (.ok _, c) => c.begin channel r

variable {channel : UInt8} {r : Request}

/-- Where the preparation of a call can end. -/
inductive Prepared (rounds : Nat) (c : TimedCaller n σ η) (channel : UInt8) (r : Request) :
    Except Interruption Unit → TimedCaller n σ η → Prop where
  /-- in the frame of an earlier call -/
  | unsent {stop : Interruption} {c' : TimedCaller n σ η} : (c.sendFrame rounds c.due).result = .ok (.error stop, c') →
      Prepared rounds c channel r (.error stop) c'
  | undropped {stop : Interruption} {c₁ c' : TimedCaller n σ η} : (c.sendFrame rounds c.due).result = .ok (.ok (), c₁) →
      (c₁.dropInput rounds c.due).result = .ok (.error stop, c') → Prepared rounds c channel r (.error stop) c'
  | begun {result : Except Interruption Unit} {c₁ c₂ c' : TimedCaller n σ η} :
      (c.sendFrame rounds c.due).result = .ok (.ok (), c₁) → (c₁.dropInput rounds c.due).result = .ok (.ok (), c₂) →
      (c₂.begin channel r).result = .ok (result, c') → Prepared rounds c channel r result c'

theorem prepare_cases {result : Except Interruption Unit} (h : (c.prepare rounds channel r).result = .ok (result, c')) :
    Prepared rounds c channel r result c' := by
  obtain ⟨⟨sent, c₁⟩, hsend, hrest⟩ := Run.result_bind_eq_ok.mp h
  cases sent with
  | error stop =>
    cases hrest
    exact .unsent hsend
  | ok _ =>
    obtain ⟨⟨received, c₂⟩, hdrop, hlast⟩ := Run.result_bind_eq_ok.mp hrest
    cases received with
    | error stop =>
      cases hlast
      exact .undropped hsend hdrop
    | ok _ => exact .begun hsend hdrop hlast

/-- Where an exchange can end. -/
inductive Exchanged (rounds : Nat) (c : TimedCaller n σ η) (channel : UInt8) (r : Request) :
    Except Interruption Message → TimedCaller n σ η → Prop where
  | unprepared {stop : Interruption} {c' : TimedCaller n σ η} :
      (c.prepare rounds channel r).result = .ok (.error stop, c') → Exchanged rounds c channel r (.error stop) c'
  | unsent {stop : Interruption} {begun c' : TimedCaller n σ η} :
      (c.prepare rounds channel r).result = .ok (.ok (), begun) →
      (begun.sendFrame rounds c.due).result = .ok (.error stop, c') → Exchanged rounds c channel r (.error stop) c'
  | awaited {result : Except Interruption Message} {begun sent c' : TimedCaller n σ η} :
      (c.prepare rounds channel r).result = .ok (.ok (), begun) →
      (begun.sendFrame rounds c.due).result = .ok (.ok (), sent) →
      (sent.await rounds c.due).result = .ok (result, c') → Exchanged rounds c channel r result c'

/-- An exchange is its preparation, and what follows if that went well. -/
theorem exchange_result : (c.exchange rounds c.due channel r).result = (c.prepare rounds channel r).result >>= fun p =>
    match p with
    | (.error stop, c') => .ok (.error stop, c')
    | (.ok _, begun) => (begun.sendFrame rounds c.due).result >>= fun s =>
      match s with
      | (.error stop, c') => .ok (.error stop, c')
      | (.ok _, sent) => (sent.await rounds c.due).result := by
  simp only [exchange, prepare, due, Run.result_bind]
  rcases (c.sendFrame rounds _).result with fault | ⟨stop | _, c₁⟩
  · rfl
  · rfl
  simp only [Outcomes.ok_bind, Run.result_bind]
  rcases (c₁.dropInput rounds _).result with fault | ⟨stop | _, c₂⟩
  · rfl
  · rfl
  simp only [Outcomes.ok_bind, Run.result_bind]
  rcases (c₂.begin channel r).result with fault | ⟨stop | _, c₃⟩
  · rfl
  · rfl
  simp only [Outcomes.ok_bind, Run.result_bind]
  rcases (c₃.sendFrame rounds _).result with fault | ⟨stop | _, c₄⟩
  · rfl
  · rfl
  · rfl

theorem exchange_cases {result : Except Interruption Message}
    (h : (c.exchange rounds c.due channel r).result = .ok (result, c')) : Exchanged rounds c channel r result c' := by
  rw [exchange_result] at h
  obtain ⟨⟨prepared, begun⟩, hprepare, hrest⟩ := Outcomes.bind_eq_ok.mp h
  cases prepared with
  | error stop =>
    cases hrest
    exact .unprepared hprepare
  | ok _ =>
    obtain ⟨⟨written, sent⟩, hsend, hlast⟩ := Outcomes.bind_eq_ok.mp hrest
    cases written with
    | error stop =>
      cases hlast
      exact .unsent hprepare hsend
    | ok _ => exact .awaited hprepare hsend hlast

end Parts

/-! ## The frame on the link -/

section Sending

variable {σ : Type}

/-- The frame on the link. -/
def armed? (c : TimedCaller n σ η) : Option Bytes :=
  c.endpoint.link.armed?

variable [TimedStream σ] {c c' : TimedCaller n σ η}

theorem fillTurn_armed {turn : Turn (TimedCaller n σ η) (Except Interruption Unit × TimedCaller n σ η)}
    (h : (fillTurn deadline c).result = .ok turn) :
    match turn with
    | .again c' => c'.armed? = c.armed?
    | .done r => r.2.armed? = c.armed? := by
  unfold fillTurn at h
  split at h
  · cases h
    rfl
  · rcases hread : TimedStream.read c.stream deadline (c.endpoint.armedSize - c.received) with
        ⟨_ | kind | bytes, stream⟩ <;>
      simp only [hread] at h
    · cases h
      rfl
    · cases h
      rfl
    · split at h <;> cases h <;> rfl

variable [Handler η]

/-- The caller after the whole of its frame was written. -/
def complete (c : TimedCaller n σ η) (stream : σ) : TimedCaller n σ η :=
  { c with stream, endpoint.link.sending := none, sent := 0 }

/-- What a turn of sending does. -/
inductive Sends (deadline : Nat) (c : TimedCaller n σ η) :
    Turn (TimedCaller n σ η) (Except Interruption Unit × TimedCaller n σ η) → Prop where
  | idle : c.endpoint.link.armed? = none → Sends deadline c (.done (.ok (), c))
  /-- nothing was written -/
  | stops {frame : Bytes} {result : Option (Except IoKind Nat)} {stream : σ} {stop : Interruption} :
      c.endpoint.link.armed? = some frame → TimedStream.write c.stream deadline (frame.drop c.sent) = (result, stream) →
      Tap.countOf result = 0 → Sends deadline c (.done (.error stop, { c with stream }))
  | more {frame : Bytes} {count : Nat} {stream : σ} : c.endpoint.link.armed? = some frame →
      TimedStream.write c.stream deadline (frame.drop c.sent) = (some (.ok count), stream) →
      c.sent + count ≠ frame.length → Sends deadline c (.again { c with stream, sent := c.sent + count })
  /-- the frame is complete, and was flushed unless this is the last turn -/
  | whole {frame : Bytes} {count : Nat} {stream : σ} {flushed : Option (Except IoKind Unit)} {stream' : σ}
      {turn : Turn (TimedCaller n σ η) (Except Interruption Unit × TimedCaller n σ η)} :
      c.endpoint.link.armed? = some frame →
      TimedStream.write c.stream deadline (frame.drop c.sent) = (some (.ok count), stream) →
      c.sent + count = frame.length → (TimedStream.flush stream deadline).value = (flushed, stream') →
      (turn = .again (c.complete stream') ∨ ∃ stop, turn = .done (.error stop, c.complete stream')) →
      Sends deadline c turn

variable [ListensOnly η]

theorem sendTurn_cases {turn : Turn (TimedCaller n σ η) (Except Interruption Unit × TimedCaller n σ η)}
    (h : (sendTurn deadline c).result = .ok turn) : Sends deadline c turn := by
  unfold sendTurn at h
  cases hframe : c.endpoint.link.armed? with
  | none =>
    simp only [hframe] at h
    cases h
    exact .idle hframe
  | some frame =>
    rcases hwrite : TimedStream.write c.stream deadline (frame.drop c.sent) with ⟨result, stream⟩
    simp only [hframe, hwrite] at h
    rcases result with _ | kind | count
    · cases h
      exact .stops hframe hwrite rfl
    · cases h
      exact .stops hframe hwrite rfl
    · simp only at h
      split at h
      next hzero =>
        cases h
        exact .stops hframe hwrite hzero
      next =>
        split at h
        next hwhole =>
          obtain ⟨e, hsent, hrest⟩ := Run.result_bind_eq_ok.mp h
          obtain rfl := Endpoint.blockSent_listens hsent
          obtain ⟨⟨flushed, stream'⟩, hflush, hlast⟩ := Run.result_bind_eq_ok.mp hrest
          have hvalue : (TimedStream.flush stream deadline).value = (flushed, stream') := Except.ok.inj hflush
          refine .whole hframe hwrite hwhole hvalue ?_
          rcases flushed with _ | kind | _ <;> cases hlast
          · exact .inr ⟨_, rfl⟩
          · exact .inr ⟨_, rfl⟩
          · exact .inl rfl
        next hpart =>
          cases h
          exact .more hframe hwrite hpart

/-- After a sending that went well the link is idle. -/
theorem sendFrame_idle (h : (c.sendFrame rounds deadline).result = .ok (.ok (), c')) : c'.armed? = none := by
  refine Run.loop_last (fun r => r.1 = .ok () → r.2.armed? = none) ?_ h rfl
  intro c₁ r hturn hok
  cases sendTurn_cases hturn with
  | idle harmed => exact harmed
  | stops => cases hok
  | whole _ _ _ _ hturn =>
    obtain hturn | ⟨stop, hturn⟩ := hturn
    · cases hturn
    · cases hturn
      cases hok

/-- Receiving leaves the frame on the link alone. -/
theorem receive_armed {result : Except Interruption Unit} (h : (c.receive rounds deadline).result = .ok (result, c')) :
    c'.armed? = c.armed? := by
  obtain ⟨⟨filled, c₁⟩, hfill, hrest⟩ := Run.result_bind_eq_ok.mp h
  have hfilled : c₁.armed? = c.armed? := by
    refine Run.loop_induction (fun c₁ => c₁.armed? = c.armed?) (fun r => r.2.armed? = c.armed?) ?_ ?_ rfl hfill
    · intro c₁ c₂ h₁ hturn
      exact (fillTurn_armed hturn).trans h₁
    · intro c₁ r h₁ hturn
      exact (fillTurn_armed hturn).trans h₁
  cases filled with
  | error stop =>
    cases hrest
    exact hfilled
  | ok _ =>
    obtain ⟨⟨report, e⟩, hreport, hlast⟩ := Run.result_bind_eq_ok.mp hrest
    have harmed := Endpoint.blockReceived_armed hreport
    cases report <;> cases hlast <;> exact harmed.trans hfilled

variable [KeepsSlot η]

theorem dropInput_armed {result : Except Interruption Unit}
    (h : (c.dropInput rounds deadline).result = .ok (result, c')) :
    c'.armed? = c.armed? := by
  refine Run.loop_induction (fun c₁ => c₁.armed? = c.armed?) (fun r => r.2.armed? = c.armed?) ?_ ?_ rfl h
  · intro c₁ c₂ h₁ hturn
    exact (receive_armed (dropTurn_cases hturn)).trans h₁
  · intro c₁ r h₁ hturn
    obtain ⟨stop, hreceive⟩ := dropTurn_cases hturn
    exact (receive_armed hreceive).trans h₁

end Sending

/-! ## Calls return -/

theorem begin_returns [KeepsSlot η] {σ : Type} {c : TimedCaller n σ η} {channel : UInt8} {r : Request}
    (hn : Header.size < n) (hidle : c.armed? = none) : (c.begin channel r).Returns := by
  refine Run.Returns.bind (.inl (Link.sendRequest_returns hn (Option.map_eq_none_iff.mp hidle) channel r)) ?_
  rintro ⟨result, link⟩ _
  exact .inl ⟨_, rfl⟩

section Returning

variable {σ : Type} [TimedStream σ] [Handler η] [ListensOnly η]

theorem sendTurn_returns (hn : Header.size < n) (c : TimedCaller n σ η) : (sendTurn deadline c).Returns := by
  left
  unfold sendTurn
  cases hframe : c.endpoint.link.armed? with
  | none => exact ⟨_, rfl⟩
  | some frame =>
    rcases hwrite : TimedStream.write c.stream deadline (frame.drop c.sent) with ⟨_ | kind | count, stream⟩ <;>
      simp only [hwrite]
    · exact ⟨_, rfl⟩
    · exact ⟨_, rfl⟩
    · by_cases hzero : count = 0
      · rw [if_pos hzero]
        exact ⟨_, rfl⟩
      by_cases hwhole : c.sent + count = frame.length
      · obtain ⟨e, hsent⟩ := Endpoint.blockSent_returns ListensOnly.returns hn c.endpoint
        simp only [if_neg hzero, if_pos hwhole, Run.result_bind, hsent, Run.result_lift, Outcomes.ok_bind]
        rcases (TimedStream.flush stream deadline).value with ⟨_ | kind | _, stream'⟩ <;> exact ⟨_, rfl⟩
      · rw [if_neg hzero, if_neg hwhole]
        exact ⟨_, rfl⟩

theorem sendFrame_returns (hn : Header.size < n) (c : TimedCaller n σ η) : (c.sendFrame rounds deadline).Returns :=
  Run.loop_returns (sendTurn_returns hn) rounds c

theorem receive_returns (hn : Header.size < n) (c : TimedCaller n σ η) : (c.receive rounds deadline).Returns := by
  refine Run.Returns.bind (Run.loop_returns ?_ rounds c) ?_
  · intro c₁
    left
    unfold fillTurn
    split
    · exact ⟨_, rfl⟩
    · rcases hread : TimedStream.read c₁.stream deadline (c₁.endpoint.armedSize - c₁.received) with
        ⟨_ | kind | bytes, stream⟩ <;> simp only [hread]
      · exact ⟨_, rfl⟩
      · exact ⟨_, rfl⟩
      · split <;> exact ⟨_, rfl⟩
  · rintro ⟨filled, c₁⟩ _
    left
    cases filled with
    | error stop => exact ⟨_, rfl⟩
    | ok _ =>
      obtain ⟨⟨report, e⟩, hreport⟩ := Endpoint.blockReceived_returns ListensOnly.returns hn c₁.endpoint
      simp only [Run.result_bind, hreport, Outcomes.ok_bind]
      cases report <;> exact ⟨_, rfl⟩

variable [KeepsSlot η]

theorem dropInput_returns (hn : Header.size < n) (c : TimedCaller n σ η) : (c.dropInput rounds deadline).Returns := by
  refine Run.loop_returns ?_ rounds c.reset
  intro c₁
  refine (receive_returns hn c₁).bind ?_
  rintro ⟨received, c₂⟩ _
  rcases received with stop | _
  · cases stop <;> exact .inl ⟨_, rfl⟩
  · exact .inl ⟨_, rfl⟩

theorem await_returns (hn : Header.size < n) (c : TimedCaller n σ η) : (c.await rounds deadline).Returns := by
  refine Run.loop_returns ?_ rounds c
  intro c₁
  unfold awaitTurn
  cases hslot : c₁.slot.take with
  | mk response slot =>
    cases response with
    | some m => exact .inl ⟨_, rfl⟩
    | none =>
      refine (receive_returns hn (c₁.setSlot slot)).bind ?_
      rintro ⟨received, c₂⟩ _
      cases received <;> exact .inl ⟨_, rfl⟩

/-- A call breaks no rule of use: it never starts a frame while another one is on the link. -/
theorem call_returns (hn : Header.size < n) (c : TimedCaller n σ η) (channel : UInt8) (r : Request) :
    (c.call rounds channel r).Returns := by
  refine Run.Returns.bind ?_ ?_
  · refine (sendFrame_returns hn c).bind ?_
    rintro ⟨sent, c₁⟩ hsend
    cases sent with
    | error stop => exact .inl ⟨_, rfl⟩
    | ok _ =>
      refine (dropInput_returns hn c₁).bind ?_
      rintro ⟨received, c₂⟩ hdrop
      cases received with
      | error stop => exact .inl ⟨_, rfl⟩
      | ok _ =>
        have hidle : c₂.armed? = none := (dropInput_armed hdrop).trans (sendFrame_idle hsend)
        refine (begin_returns hn hidle).bind ?_
        rintro ⟨started, c₃⟩ _
        cases started with
        | error stop => exact .inl ⟨_, rfl⟩
        | ok _ =>
          refine (sendFrame_returns hn c₃).bind ?_
          rintro ⟨sent, c₄⟩ _
          cases sent with
          | error stop => exact .inl ⟨_, rfl⟩
          | ok _ => exact await_returns hn c₄
  · rintro ⟨exchanged, c₁⟩ _
    rcases exchanged with stop | m
    · cases stop <;> exact .inl ⟨_, rfl⟩
    · exact .inl ⟨_, rfl⟩

end Returning

/-! ## Receiving -/

/-- The second caller is the first one after `new` was read into the armed block. -/
structure Fills (c c' : TimedCaller n (Tap τ) η) (new : Bytes) : Prop where
  taken : c'.taken = c.taken ++ new
  received : c'.received = c.received + new.length
  arrives : c.endpoint.Arrives c'.endpoint c.received new
  handler : c'.endpoint.handler = c.endpoint.handler
  fits : c.received + new.length ≤ c.endpoint.armedSize

/-- How filling ends: with the block complete if it went well, and open if not. -/
def FillEnds (c : TimedCaller n (Tap τ) η) (r : Except Interruption Unit × TimedCaller n (Tap τ) η) : Prop :=
  ∃ new, c.Fills r.2 new ∧
    (r.1 = .ok () ∧ c.received + new.length = c.endpoint.armedSize ∨
      (∃ stop, r.1 = .error stop) ∧ c.received + new.length < c.endpoint.armedSize)

theorem Fills.refl (h : c.received ≤ c.endpoint.armedSize) : c.Fills c [] :=
  ⟨(List.append_nil _).symm, rfl, ⟨rfl, (List.append_nil _).symm⟩, rfl, h⟩

theorem Fills.armedSize {new : Bytes} (h : c.Fills c' new) : c'.endpoint.armedSize = c.endpoint.armedSize :=
  congrArg (Reception.size (n - Header.size)) h.arrives.reception

/-- Waiting for nothing. -/
theorem Fills.idle {new : Bytes} {stream : Tap τ} (h : c.Fills c₁ new) (hstream : stream.taken = c₁.stream.taken) :
    c.Fills { c₁ with stream } new :=
  ⟨hstream.trans h.taken, h.received, h.arrives, h.handler, h.fits⟩

/-- Reading more. -/
theorem Fills.more {new bytes : Bytes} {stream : Tap τ} (h : c.Fills c₁ new)
    (hroom : c.endpoint.reception.offset + c.endpoint.armedSize ≤ n) (hstream : stream.taken = c₁.stream.taken ++ bytes)
    (hfit : c₁.received + bytes.length ≤ c₁.endpoint.armedSize) :
    c.Fills { c₁ with
      stream
      endpoint := c₁.endpoint.store c₁.received bytes
      received := c₁.received + bytes.length } (new ++ bytes) := by
  have hsize := h.armedSize
  have hreceived := h.received
  have hroom₁ : c₁.endpoint.reception.offset + c₁.endpoint.armedSize ≤ n := by
    rw [hsize, h.arrives.reception]
    exact hroom
  have hstored := Endpoint.arrives_store hroom₁ hfit
  refine ⟨?_, ?_, ?_, h.handler, ?_⟩
  · rw [← List.append_assoc, ← h.taken]
    exact hstream
  · rw [List.length_append, ← Nat.add_assoc, ← hreceived]
  · rw [hreceived] at hstored ⊢
    exact h.arrives.trans hstored
  · rw [List.length_append]
    omega

variable [TimedStream τ]

/-- A turn of filling reads more, or it is the last one. -/
theorem fillTurn_fills {new : Bytes}
    {turn : Turn (TimedCaller n (Tap τ) η) (Except Interruption Unit × TimedCaller n (Tap τ) η)}
    (hroom : c.endpoint.reception.offset + c.endpoint.armedSize ≤ n) (h : c.Fills c₁ new)
    (hturn : (fillTurn deadline c₁).result = .ok turn) :
    match turn with
    | .again c' => ∃ new, c.Fills c' new
    | .done r => c.FillEnds r := by
  have hsize := h.armedSize
  have hreceived := h.received
  have hfits := h.fits
  unfold fillTurn at hturn
  by_cases hfull : c₁.endpoint.armedSize ≤ c₁.received
  · rw [if_pos hfull] at hturn
    cases hturn
    exact ⟨new, h, .inl ⟨rfl, by omega⟩⟩
  · rw [if_neg hfull] at hturn
    have htaken := Tap.read_taken c₁.stream deadline (c₁.endpoint.armedSize - c₁.received)
    rcases hread : TimedStream.read c₁.stream deadline (c₁.endpoint.armedSize - c₁.received) with ⟨result, stream⟩
    simp only [hread] at htaken hturn
    obtain ⟨htaken, hwant⟩ := htaken
    rcases result with _ | kind | bytes
    · cases hturn
      exact ⟨new, h.idle (htaken.trans (List.append_nil _)), .inr ⟨⟨_, rfl⟩, by omega⟩⟩
    · cases hturn
      exact ⟨new, h.idle (htaken.trans (List.append_nil _)), .inr ⟨⟨_, rfl⟩, by omega⟩⟩
    · have hall : bytes.take (c₁.endpoint.armedSize - c₁.received) = bytes := List.take_of_length_le hwant
      simp only [hall] at hturn
      by_cases hnone : bytes.length = 0
      · rw [if_pos hnone] at hturn
        cases hturn
        obtain rfl := List.length_eq_zero_iff.mp hnone
        exact ⟨new, h.idle (htaken.trans (List.append_nil _)), .inr ⟨⟨_, rfl⟩, by omega⟩⟩
      · rw [if_neg hnone] at hturn
        cases hturn
        simp only [Tap.bytesOf] at hwant
        exact ⟨_, h.more hroom htaken (by omega)⟩

theorem fill_fills {r : Except Interruption Unit × TimedCaller n (Tap τ) η}
    (hroom : c.endpoint.reception.offset + c.endpoint.armedSize ≤ n) (hlt : c.received < c.endpoint.armedSize)
    (h : (Run.loop (fillTurn deadline) rounds c).result = .ok r) : c.FillEnds r := by
  refine Run.loop_induction (fun c₁ => ∃ new, c.Fills c₁ new) c.FillEnds (fun c₁ c₂ hfills hturn => ?_)
    (fun c₁ r hfills hturn => ?_) ⟨[], .refl (Nat.le_of_lt hlt)⟩ h
  · obtain ⟨new, hfills⟩ := hfills
    exact fillTurn_fills hroom hfills hturn
  · obtain ⟨new, hfills⟩ := hfills
    exact fillTurn_fills hroom hfills hturn

variable [Handler η] [ListensOnly η]

/-- Receiving hears what it reads, also if it is cut off. -/
theorem receive_listens {result : Except Interruption Unit} (hn : Header.size < n) (h : c.Tracks)
    (hrun : (c.receive rounds deadline).result = .ok (result, c')) : c.Listens c' := by
  obtain ⟨⟨filled, c₁⟩, hfill, hrest⟩ := Run.result_bind_eq_ok.mp hrun
  obtain ⟨new, hfills, ⟨rfl, hfull⟩ | ⟨⟨stop, rfl⟩, hopen⟩⟩ :=
    fill_fills (Endpoint.Holds.room h hn) (Endpoint.Holds.received_lt h) hfill
  · obtain ⟨⟨report, e⟩, hreport, hlast⟩ := Run.result_bind_eq_ok.mp hrest
    obtain ⟨hholds, hheard, _⟩ := Endpoint.hears_report (Endpoint.reports_of_filled h hn hfills.arrives hfull hreport)
    have hlistens : c.Listens { c₁ with endpoint := e, received := 0 } := by
      have htaken : ({ c₁ with endpoint := e, received := 0 } : TimedCaller n (Tap τ) η).taken = c.taken ++ new :=
        hfills.taken
      refine ⟨?_, ?_⟩
      · unfold Tracks
        rw [htaken]
        exact hholds
      · rw [htaken, ← hfills.handler]
        exact hheard
    cases report <;> cases hlast <;> exact hlistens
  · cases hrest
    obtain ⟨hholds, hheard⟩ := Endpoint.hears_wait h hfills.arrives hopen hfills.handler
    refine ⟨?_, ?_⟩
    · unfold Tracks
      rw [hfills.taken, hfills.received]
      exact hholds
    · rw [hfills.taken]
      exact hheard

/-! ## Sending -/

theorem sendTurn_quiet {turn : Turn (TimedCaller n (Tap τ) η) (Except Interruption Unit × TimedCaller n (Tap τ) η)}
    (h : (sendTurn deadline c).result = .ok turn) :
    match turn with
    | .again c' => c.Quiet c'
    | .done r => c.Quiet r.2 := by
  have hwrote : ∀ {bytes result stream}, TimedStream.write c.stream deadline bytes = (result, stream) →
      stream.taken = c.taken := by
    intro bytes result stream hwrite
    have htaken := Tap.write_taken c.stream deadline bytes
    rwa [hwrite] at htaken
  cases sendTurn_cases h with
  | idle => exact ⟨rfl, rfl, rfl, rfl, rfl⟩
  | stops _ hwrite => exact ⟨hwrote hwrite, rfl, rfl, rfl, rfl⟩
  | more _ hwrite => exact ⟨hwrote hwrite, rfl, rfl, rfl, rfl⟩
  | @whole _ _ stream _ stream' _ _ hwrite _ hflush hturn =>
    have hflushed := Tap.flush_taken stream deadline
    rw [hflush] at hflushed
    have hquiet : c.Quiet (c.complete stream') := ⟨hflushed.trans (hwrote hwrite), rfl, rfl, rfl, rfl⟩
    obtain rfl | ⟨stop, rfl⟩ := hturn
    · exact hquiet
    · exact hquiet

/-- Sending reads nothing. -/
theorem sendFrame_quiet {result : Except Interruption Unit}
    (h : (c.sendFrame rounds deadline).result = .ok (result, c')) :
    c.Quiet c' := by
  refine Run.loop_induction (fun c₁ => c.Quiet c₁) (fun r => c.Quiet r.2) (fun c₁ c₂ h₁ hturn => ?_)
    (fun c₁ r h₁ hturn => ?_) ⟨rfl, rfl, rfl, rfl, rfl⟩ h
  · exact h₁.trans (sendTurn_quiet hturn)
  · exact h₁.trans (sendTurn_quiet hturn)

/-! ## Waiting -/

variable [KeepsSlot η]

/-- Dropping the input hears it, with nothing expected. -/
theorem dropInput_listens {result : Except Interruption Unit} (hn : Header.size < n) (h : c.Tracks)
    (hrun : (c.dropInput rounds deadline).result = .ok (result, c')) : c.reset.Listens c' := by
  have hreset : c.reset.Tracks := h.setSlot _
  refine Run.loop_induction (fun c₁ => c.reset.Listens c₁) (fun r => c.reset.Listens r.2) (fun c₁ c₂ h₁ hturn => ?_)
    (fun c₁ r h₁ hturn => ?_) hreset.listens hrun
  · exact h₁.trans (receive_listens hn h₁.tracks (dropTurn_cases hturn))
  · obtain ⟨stop, hreceive⟩ := dropTurn_cases hturn
    exact h₁.trans (receive_listens hn h₁.tracks hreceive)

/-- The wait of a call ended with the response taken out of the slot of the first caller, or without one. -/
inductive Ends (c : TimedCaller n (Tap τ) η) : Except Interruption Message → TimedCaller n (Tap τ) η → Prop where
  | response {m : Message} : c.slot.response = some m → Ends c (.ok m) (c.setSlot c.slot.take.2)
  | failure {stop : Interruption} : Ends c (.error stop) c

/-- Waiting hears what it reads, until it ends. -/
theorem await_listens {result : Except Interruption Message} (hn : Header.size < n) (h : c.Tracks)
    (hrun : (c.await rounds deadline).result = .ok (result, c')) : ∃ c₁, c.Listens c₁ ∧ c₁.Ends result c' := by
  refine Run.loop_induction (fun c₁ => c.Listens c₁) (fun r => ∃ c₁, c.Listens c₁ ∧ c₁.Ends r.1 r.2)
    (fun c₁ c₂ h₁ hturn => ?_) (fun c₁ r h₁ hturn => ?_) h.listens hrun
  · exact h₁.trans (receive_listens hn h₁.tracks (awaitTurn_cases hturn))
  · obtain ⟨m, hresponse, rfl⟩ | ⟨stop, c₂, hreceive, rfl⟩ := awaitTurn_cases hturn
    · exact ⟨c₁, h₁, .response hresponse⟩
    · exact ⟨c₂, h₁.trans (receive_listens hn h₁.tracks hreceive), .failure⟩

/-! ## What the slot hears -/

section Slot

variable {c c' : TimedCaller n (Tap τ)} {channel : UInt8} {r : Request}

/-- Up to the moment at which its frame is started a call hears everything with nothing expected. -/
theorem prepare_listens {result : Except Interruption Unit} (hn : Header.size < n) (h : c.Tracks)
    (hrun : (c.prepare rounds channel r).result = .ok (result, c')) :
    c'.Tracks ∧ ∃ settled, Heard (n - Header.size) c.taken c'.taken c.slot.reset settled ∧
      c'.slot.reset = settled.reset ∧
      (result = .ok () → c'.slot = settled.expect r.command.component (responseTo r.command.operation)) := by
  cases prepare_cases hrun with
  | unsent hsend =>
    have hquiet := sendFrame_quiet hsend
    refine ⟨(hquiet.listens h).tracks, c.slot.reset, ?_, ?_, fun hok => nomatch hok⟩
    · rw [hquiet.taken]
      exact .refl
    · rw [hquiet.slot]
      rfl
  | @undropped _ c₁ _ hsend hdrop =>
    have hquiet := sendFrame_quiet hsend
    have hlistens := dropInput_listens hn (hquiet.listens h).tracks hdrop
    refine ⟨hlistens.tracks, c'.slot, ?_, rfl, fun hok => nomatch hok⟩
    rw [← hquiet.taken, ← hquiet.slot]
    exact hlistens.heard
  | @begun _ c₁ c₂ _ hsend hdrop hbegin =>
    have hquiet := sendFrame_quiet hsend
    have hlistens := dropInput_listens hn (hquiet.listens h).tracks hdrop
    have hbegun := begin_quiet hbegin
    refine ⟨(hbegun.listens (hlistens.tracks.setSlot _)).tracks, c₂.slot, ?_, ?_, fun _ => hbegun.slot⟩
    · rw [← hquiet.taken, ← hquiet.slot, hbegun.taken]
      exact hlistens.heard
    · rw [hbegun.slot]
      rfl

/-- What the slot of a caller hears during a call: until `early` had been received with nothing expected, and then
while it waits for the response. -/
structure Hears (rounds : Nat) (c : TimedCaller n (Tap τ)) (channel : UInt8) (r : Request) (early : Bytes)
    (settled waited : ResponseSlot) (result : Except CallError Message) (c' : TimedCaller n (Tap τ)) : Prop where
  tracks : c'.Tracks
  drops : Heard (n - Header.size) c.taken early c.slot.reset settled
  waits : Heard (n - Header.size) early c'.taken
    (settled.expect r.command.component (responseTo r.command.operation)) waited
  failure : ∀ error, result = .error error → c'.slot = waited.reset
  response : ∀ m, result = .ok m → waited.response = some m ∧ c'.slot = waited.take.2 ∧
    ∃ begun, (c.prepare rounds channel r).result = .ok (.ok (), begun) ∧ begun.taken = early

/-- A call hears everything, however it ends. -/
theorem call_hears {result : Except CallError Message} (hn : Header.size < n) (h : c.Tracks)
    (hrun : (c.call rounds channel r).result = .ok (result, c')) :
    ∃ early settled waited, Hears rounds c channel r early settled waited result c' := by
  obtain ⟨⟨exchanged, c₂⟩, hexchange, hrest⟩ := Run.result_bind_eq_ok.mp hrun
  -- a call that fails resets the slot, whatever the reason
  have hfails : ∀ stop early settled waited, exchanged = .error stop → c₂.Tracks →
      Heard (n - Header.size) c.taken early c.slot.reset settled →
      Heard (n - Header.size) early c₂.taken (settled.expect r.command.component (responseTo r.command.operation))
        waited →
      c₂.slot.reset = waited.reset →
        ∃ early settled waited, Hears rounds c channel r early settled waited result c' := by
    rintro stop early settled waited rfl htracks hdrops hwaits hslot
    refine ⟨early, settled, waited, ?_⟩
    cases stop <;> cases hrest <;>
      exact ⟨htracks.setSlot _, hdrops, hwaits, fun _ _ => hslot, fun _ hm => nomatch hm⟩
  cases exchange_cases hexchange with
  | unprepared hprepare =>
    obtain ⟨htracks, settled, hdrops, hslot, _⟩ := prepare_listens hn h hprepare
    exact hfails _ _ _ _ rfl htracks hdrops .refl hslot
  | unsent hprepare hsend =>
    obtain ⟨htracks, settled, hdrops, _, hslot⟩ := prepare_listens hn h hprepare
    have hquiet := sendFrame_quiet hsend
    refine hfails _ _ _ c₂.slot rfl (hquiet.listens htracks).tracks hdrops ?_ rfl
    rw [hquiet.taken, hquiet.slot, hslot rfl]
    exact .refl
  | @awaited _ begun sent _ hprepare hsend hawait =>
    obtain ⟨htracks, settled, hdrops, _, hslot⟩ := prepare_listens hn h hprepare
    have hsent := (sendFrame_quiet hsend).listens htracks
    obtain ⟨c₃, hlistens, hends⟩ := await_listens hn hsent.tracks hawait
    have hwaits : Heard (n - Header.size) begun.taken c₃.taken begun.slot c₃.slot := (hsent.trans hlistens).heard
    rw [hslot rfl] at hwaits
    cases hends with
    | failure => exact hfails _ _ _ _ rfl hlistens.tracks hdrops hwaits rfl
    | response hresponse =>
      cases hrest
      refine ⟨begun.taken, settled, c₃.slot, hlistens.tracks.setSlot _, hdrops, hwaits, ?_, ?_⟩
      · intro error hm
        cases hm
      · intro m hm
        cases hm
        exact ⟨hresponse, rfl, begun, hprepare, rfl⟩

end Slot

end TimedCaller

end BusBridge

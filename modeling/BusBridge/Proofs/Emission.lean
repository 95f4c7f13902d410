import BusBridge.Line.Stream
import BusBridge.Proofs.Drafts
import BusBridge.Proofs.Framing
import BusBridge.Proofs.Journal
import BusBridge.Service.Router
import BusBridge.Caller.ResponseSlot
/-!
# What sending does to an endpoint

Two things are said here about the sending half. What a link is after a message was started: the frame
of the message is armed and the medium was told its size (`Link.Carries`), however it was started
(`Link.commit_fits`, `Link.sendMessage_ok`, `Link.sendRequest_ok`). And what a handler that was given
the link may have done to the medium: it armed emissions, or gave them up (`Medium.Emits`). A handler
for which that is all is called `SendsOnly`; the reception of an endpoint with such a handler is its
own. A handler for which `HandlerReturns` holds stops no poll.
-/

namespace BusBridge

/-! ## What was started -/

namespace Link

variable {n : Nat} {δ : Type}

/-- A link that is not busy has no frame. -/
theorem armed?_idle {l : Link n δ} (h : l.sending = none) : l.armed? = none := by
  rw [armed?, h]
  rfl

theorem payload_writePayload (l : Link n δ) (data : Bytes) :
    (l.writePayload data).payload = Bytes.overlay l.payload 0 data := by
  have hslice := @Bytes.slice_overlay l.buffer.bytes data Header.size
  rw [l.buffer.length_bytes] at hslice
  exact hslice

theorem length_payload (l : Link n δ) : l.payload.length = n - Header.size := by
  simp only [payload, Buffer.slice, Bytes.length_slice, l.buffer.length_bytes, Nat.min_self]

theorem length_wire_header (h : Header) : (wire h).length = Header.size := by
  rw [Framing.wire_header]
  rfl

theorem requireIdle_idle {l : Link n δ} (h : l.sending = none) : l.requireIdle.result = .ok () := by
  rw [requireIdle, isBusy, h]
  rfl

/-- A header written before a payload in place makes a frame of it. -/
theorem slice_header (l : Link n δ) (component operation channel : UInt8) {length : Nat} (hn : Header.size < n)
    (hfits : length ≤ n - Header.size) (hmax : length ≤ maxPayload) :
    (l.buffer.overlay 0 (wire (⟨component, operation, channel, UInt16.ofNat length⟩ : Header))).slice 0
      (Header.size + length) = (⟨component, operation, channel, l.payload.take length⟩ : Message).frame := by
  have hlength : (l.payload.take length).length = length := by
    rw [List.length_take, length_payload, Nat.min_eq_left hfits]
  have hheader : (⟨component, operation, channel, l.payload.take length⟩ : Message).header =
      ⟨component, operation, channel, UInt16.ofNat length⟩ := by
    simp only [Message.header, hlength, Nat.min_eq_left hmax]
  have hwire := length_wire_header ⟨component, operation, channel, UInt16.ofNat length⟩
  have hroom : 0 + (wire (⟨component, operation, channel, UInt16.ofNat length⟩ : Header)).length ≤
      l.buffer.bytes.length := by
    rw [hwire, l.buffer.length_bytes]
    omega
  have hfront := Bytes.take_overlay hroom
  have hback := @Bytes.slice_overlay_before l.buffer.bytes _ _ length (Nat.le_of_eq hwire)
  rw [hwire, Nat.zero_add, List.take_zero, List.nil_append] at hfront
  rw [Message.frame, hheader]
  simp only [Buffer.slice, Buffer.overlay, Bytes.slice, List.drop_zero, List.take_add, payload] at hback ⊢
  rw [hfront, hback, List.take_take, Nat.min_eq_left hfits]

/-- Only an idle link lets anything pass. -/
theorem idle_of_requireIdle {α : Type} {l : Link n δ} {next : Unit → Run α} {a : α}
    (h : (l.requireIdle >>= next).result = .ok a) : l.sending = none ∧ (next ()).result = .ok a := by
  obtain ⟨⟨⟩, hidle, hnext⟩ := Run.result_bind_eq_ok.mp h
  refine ⟨?_, hnext⟩
  cases hsending : l.sending with
  | none => rfl
  | some size =>
    rw [requireIdle, isBusy, hsending] at hidle
    cases hidle

variable {φ : Type} [Medium δ φ]

theorem start_value (l : Link n δ) (size : Nat) :
    (l.start size).value = { l with sending := some size, medium := Medium.armSend l.medium size } := by
  unfold start
  split <;> rfl

/-- The second link is the first one after a message was started on it. -/
structure Carries (l l' : Link n δ) (m : Message) : Prop where
  idle : l.sending = none
  max : m.payload.length ≤ maxPayload
  fits : m.payload.length ≤ n - Header.size
  armed : l'.armed? = some m.frame
  medium : l'.medium = Medium.armSend l.medium m.frame.length

/-- A payload in place that fits becomes the payload of the frame. -/
theorem commit_fits {l : Link n δ} {component operation channel : UInt8} {length : Nat} (hn : Header.size < n)
    (hidle : l.sending = none) (hfits : length ≤ n - Header.size) (hmax : length ≤ maxPayload) :
    ∃ l', (l.commit component operation channel length).result = .ok (.ok (), l') ∧ l'.payload = l.payload ∧
      l.Carries l' ⟨component, operation, channel, l.payload.take length⟩ := by
  have hlength : (l.payload.take length).length = length := by
    rw [List.length_take, length_payload, Nat.min_eq_left hfits]
  have hnot : ¬(length > n - Header.size ∨ length > maxPayload) := by omega
  have hwire := length_wire_header ⟨component, operation, channel, UInt16.ofNat length⟩
  refine ⟨{ l with
      buffer := l.buffer.overlay 0 (wire (⟨component, operation, channel, UInt16.ofNat length⟩ : Header))
      sending := some (Header.size + length)
      medium := Medium.armSend l.medium (Header.size + length) }, ?_, ?_, ⟨hidle, ?_, ?_, ?_, ?_⟩⟩
  · simp only [commit, Run.result_bind, requireIdle_idle hidle, Outcomes.ok_bind, if_neg hnot, Run.result_lift,
      start_value, Run.result_pure]
  · exact Bytes.slice_overlay_before (Nat.le_of_eq hwire)
  · rw [hlength]
    exact hmax
  · rw [hlength]
    exact hfits
  · exact congrArg some (l.slice_header component operation channel hn hfits hmax)
  · rw [Framing.length_frame, hlength]

/-- A payload in place that does not fit is refused, and the link stays as it is. -/
theorem commit_full {l : Link n δ} {component operation channel : UInt8} {length : Nat} (hidle : l.sending = none)
    (hfull : n - Header.size < length ∨ maxPayload < length) :
    (l.commit component operation channel length).result = .ok (.error ⟨Header.size + length, n⟩, l) := by
  simp only [commit, Run.result_bind, requireIdle_idle hidle, Outcomes.ok_bind, gt_iff_lt, if_pos hfull,
    Run.result_pure]

/-- Bytes written where the payload is are sent, if there is room for them, or stay there. -/
theorem commit_writePayload (l : Link n δ) (component operation channel : UInt8) {data : Bytes} {length : Nat}
    (hn : Header.size < n) (hidle : l.sending = none) (hdata : length ≤ data.length) :
    (length ≤ n - Header.size ∧ length ≤ maxPayload ∧
        ∃ l', ((l.writePayload data).commit component operation channel length).result = .ok (.ok (), l') ∧
          l'.payload = Bytes.overlay l.payload 0 data ∧
            l.Carries l' ⟨component, operation, channel, data.take length⟩) ∨
      (¬(length ≤ n - Header.size ∧ length ≤ maxPayload) ∧
        ((l.writePayload data).commit component operation channel length).result =
          .ok (.error ⟨Header.size + length, n⟩, l.writePayload data)) := by
  have hidle' : (l.writePayload data).sending = none := hidle
  by_cases hfits : length ≤ n - Header.size ∧ length ≤ maxPayload
  · obtain ⟨l', hresult, hpayload, hcarries⟩ :=
      @commit_fits n δ _ _ _ component operation channel _ hn hidle' hfits.1 hfits.2
    have htake : (l.writePayload data).payload.take length = data.take length := by
      rw [payload_writePayload, Bytes.take_overlay_zero (by rw [length_payload]; exact hfits.1) hdata]
    rw [htake] at hcarries
    exact .inl ⟨hfits.1, hfits.2, l', hresult, hpayload.trans (l.payload_writePayload data),
      ⟨hidle, hcarries.max, hcarries.fits, hcarries.armed, hcarries.medium⟩⟩
  · exact .inr ⟨hfits, commit_full hidle' (by omega)⟩

/-- A message that was accepted is what is sent. -/
theorem sendMessage_ok {l l' : Link n δ} {m : Message} (hn : Header.size < n)
    (h : (l.sendMessage m).result = .ok (.ok (), l')) : l.Carries l' m := by
  obtain ⟨hidle, hrest⟩ := idle_of_requireIdle h
  by_cases hfits : m.payload.length > n - Header.size
  · rw [if_pos hfits] at hrest
    cases hrest
  · rw [if_neg hfits] at hrest
    obtain ⟨_, hcommit⟩ := idle_of_requireIdle hrest
    obtain ⟨_, _, l'', hresult, _, hcarries⟩ | ⟨_, hresult⟩ :=
      l.commit_writePayload m.component m.operation m.channel hn hidle (Nat.le_refl m.payload.length)
    · cases hresult.symm.trans hcommit
      rwa [List.take_length] at hcarries
    · cases hresult.symm.trans hcommit

/-- A request that was accepted is what is sent. -/
theorem sendRequest_ok {l l' : Link n δ} {channel : UInt8} {r : Request} (hn : Header.size < n)
    (h : (l.sendRequest channel r).result = .ok (.ok (), l')) : l.Carries l' (r.message channel) := by
  obtain ⟨hidle, hrest⟩ := idle_of_requireIdle h
  obtain ⟨_, draft, hencode, hwritten⟩ | ⟨_, draft, hencode⟩ := (Draft.start l.payload).encode_cases r.pieces
  · rw [hencode] at hrest
    obtain ⟨⟨result, l''⟩, hcommit, hlast⟩ := Run.result_bind_eq_ok.mp hrest
    obtain ⟨_, _, l₁, hresult, _, hcarries⟩ | ⟨_, hresult⟩ :=
      l.commit_writePayload r.command.component r.command.operation channel hn hidle draft.length_le
    · cases hresult.symm.trans hcommit
      cases hlast
      have hlayout : draft.block.take draft.length = r.layout := hwritten
      rwa [hlayout] at hcarries
    · cases hresult.symm.trans hcommit
      cases hlast
  · rw [hencode] at hrest
    cases hrest

/-- A request that fits is accepted by an idle link. -/
theorem sendRequest_fits {l : Link n δ} {channel : UInt8} {r : Request} (hn : Header.size < n)
    (hidle : l.sending = none) (hfits : r.layout.length ≤ n - Header.size) (hmax : r.layout.length ≤ maxPayload) :
    ∃ l', (l.sendRequest channel r).result = .ok (.ok (), l') ∧ l.Carries l' (r.message channel) := by
  obtain ⟨_, draft, hencode, hwritten⟩ | ⟨hfull, _⟩ := (Draft.start l.payload).encode_cases r.pieces
  · have hlayout : draft.block.take draft.length = r.layout := hwritten
    have hlength : draft.length = r.layout.length := by rw [← hlayout]; exact draft.length_written.symm
    obtain ⟨_, _, l', hresult, _, hcarries⟩ | ⟨hnot, _⟩ :=
      l.commit_writePayload r.command.component r.command.operation channel hn hidle draft.length_le
    · rw [hlayout] at hcarries
      refine ⟨l', ?_, hcarries⟩
      simp only [sendRequest, Run.result_bind, requireIdle_idle hidle, Outcomes.ok_bind, hencode, hresult,
        Run.result_pure]
      rfl
    · exact absurd ⟨hlength ▸ hfits, hlength ▸ hmax⟩ hnot
  · rw [Draft.space_start, length_payload] at hfull
    exact absurd hfits (Nat.not_le_of_lt hfull)

/-- An idle link answers to every request. -/
theorem sendRequest_returns {l : Link n δ} (hn : Header.size < n) (hidle : l.sending = none) (channel : UInt8)
    (r : Request) :
    ∃ a, (l.sendRequest channel r).result = .ok a := by
  simp only [sendRequest, Run.result_bind, requireIdle_idle hidle, Outcomes.ok_bind]
  obtain ⟨_, draft, hencode, _⟩ | ⟨_, draft, hencode⟩ := (Draft.start l.payload).encode_cases r.pieces
  · simp only [hencode, Run.result_bind]
    obtain ⟨_, _, l', hresult, _⟩ | ⟨_, hresult⟩ :=
      l.commit_writePayload r.command.component r.command.operation channel hn hidle draft.length_le
    · rw [hresult]
      exact ⟨_, rfl⟩
    · rw [hresult]
      exact ⟨_, rfl⟩
  · rw [hencode]
    exact ⟨_, rfl⟩

/-! ## Started or refused -/

/-- The second link is the first one after a frame was started on it. -/
structure Starts (l l' : Link n δ) (frame : Bytes) : Prop where
  idle : l.sending = none
  armed : l'.armed? = some frame
  medium : l'.medium = Medium.armSend l.medium frame.length

/-- The second link is the first one after a frame was refused: both are idle, and the medium knows nothing of it. -/
structure Declines (l l' : Link n δ) : Prop where
  idle : l.sending = none
  left : l'.sending = none
  medium : l'.medium = l.medium

variable {l l' : Link n δ}

theorem Carries.starts {m : Message} (h : l.Carries l' m) : l.Starts l' m.frame :=
  ⟨h.idle, h.armed, h.medium⟩

theorem send_cases {frame : Bytes} {result : Except TooLarge Unit} (hrun : (l.send frame).result = .ok (result, l')) :
    (result = .ok () ∧ l.Starts l' frame) ∨ ((∃ error, result = .error error) ∧ l.Declines l') := by
  obtain ⟨hidle, hrest⟩ := idle_of_requireIdle hrun
  by_cases hshort : frame.length < Header.size
  · simp only [if_pos hshort] at hrest
    obtain ⟨_, hstop, _⟩ := Run.result_bind_eq_ok.mp hrest
    cases hstop
  by_cases hlong : frame.length > n
  · simp only [if_neg hshort, if_pos hlong] at hrest
    cases hrest
    exact .inr ⟨⟨_, rfl⟩, hidle, hidle, rfl⟩
  · simp only [if_neg hshort, if_neg hlong, Run.result_bind, Run.result_lift, Outcomes.ok_bind, start_value,
      Run.result_pure] at hrest
    cases hrest
    have hfront : (Bytes.overlay l.buffer.bytes 0 frame).take frame.length = frame := by
      rw [Bytes.take_overlay_zero (by rw [l.buffer.length_bytes]; omega) (Nat.le_refl _), List.take_length]
    exact .inl ⟨rfl, hidle, congrArg some hfront, rfl⟩

theorem commit_cases {component operation channel : UInt8} {length : Nat} {result : Except TooLarge Unit}
    (hn : Header.size < n) (hrun : (l.commit component operation channel length).result = .ok (result, l')) :
    (result = .ok () ∧ l.Starts l' (⟨component, operation, channel, l.payload.take length⟩ : Message).frame) ∨
      ((∃ error, result = .error error) ∧ l.Declines l') := by
  have hidle := (idle_of_requireIdle hrun).1
  by_cases hfits : length ≤ n - Header.size ∧ length ≤ maxPayload
  · obtain ⟨l₁, hresult, _, hcarries⟩ := @commit_fits n δ _ _ _ component operation channel _ hn hidle hfits.1 hfits.2
    cases hresult.symm.trans hrun
    exact .inl ⟨rfl, hcarries.starts⟩
  · have hlong : n - Header.size < length ∨ maxPayload < length := by omega
    have hfull := @commit_full n δ _ _ _ component operation channel _ hidle hlong
    cases hfull.symm.trans hrun
    exact .inr ⟨⟨_, rfl⟩, hidle, hidle, rfl⟩

/-- What an idle link with frames of at most `n` bytes answers to a message. -/
def admission (n : Nat) (m : Message) : Except TooLarge Unit :=
  if m.payload.length ≤ min (n - Header.size) maxPayload then .ok () else .error ⟨Header.size + m.payload.length, n⟩

/-- A message is refused if it does not fit the buffer or the length field, and started otherwise. -/
theorem sendMessage_idle (hn : Header.size < n) (hidle : l.sending = none) (m : Message) :
    ∃ l', (l.sendMessage m).result = .ok (admission n m, l') ∧
      ((m.payload.length ≤ min (n - Header.size) maxPayload ∧ l.Starts l' m.frame) ∨
        (¬m.payload.length ≤ min (n - Header.size) maxPayload ∧ l.Declines l')) := by
  simp only [sendMessage, commitPayload, Run.result_bind, requireIdle_idle hidle, Outcomes.ok_bind]
  by_cases hlarge : m.payload.length > n - Header.size
  · have hnot : ¬m.payload.length ≤ min (n - Header.size) maxPayload := by omega
    rw [if_pos hlarge, admission, if_neg hnot]
    exact ⟨l, rfl, .inr ⟨hnot, hidle, hidle, rfl⟩⟩
  · simp only [if_neg hlarge, Run.result_bind, requireIdle_idle hidle, Outcomes.ok_bind]
    obtain ⟨hfits, hmax, l', hresult, _, hcarries⟩ | ⟨hfull, hresult⟩ :=
      l.commit_writePayload m.component m.operation m.channel hn hidle (Nat.le_refl m.payload.length)
    · have hle : m.payload.length ≤ min (n - Header.size) maxPayload := by omega
      rw [List.take_length] at hcarries
      rw [hresult, admission, if_pos hle]
      exact ⟨l', rfl, .inl ⟨hle, hcarries.starts⟩⟩
    · have hnot : ¬m.payload.length ≤ min (n - Header.size) maxPayload := by omega
      rw [hresult, admission, if_neg hnot]
      exact ⟨l.writePayload m.payload, rfl, .inr ⟨hnot, hidle, hidle, rfl⟩⟩

theorem sendMessage_cases {m : Message} {result : Except TooLarge Unit} (hn : Header.size < n)
    (hrun : (l.sendMessage m).result = .ok (result, l')) :
    (result = .ok () ∧ l.Starts l' m.frame) ∨ ((∃ error, result = .error error) ∧ l.Declines l') := by
  obtain ⟨l₁, hresult, hcases⟩ := sendMessage_idle hn (idle_of_requireIdle hrun).1 m
  cases hresult.symm.trans hrun
  obtain ⟨hfits, hstarts⟩ | ⟨hlarge, hdeclines⟩ := hcases
  · exact .inl ⟨if_pos hfits, hstarts⟩
  · exact .inr ⟨⟨_, if_neg hlarge⟩, hdeclines⟩

theorem sendRequest_cases {channel : UInt8} {r : Request} {result : Except CapacityError Unit} (hn : Header.size < n)
    (hrun : (l.sendRequest channel r).result = .ok (result, l')) :
    (result = .ok () ∧ l.Starts l' (r.message channel).frame) ∨ ((∃ error, result = .error error) ∧ l.Declines l') := by
  obtain ⟨hidle, hrest⟩ := idle_of_requireIdle hrun
  cases result with
  | ok _ => exact .inl ⟨rfl, (sendRequest_ok hn hrun).starts⟩
  | error error =>
    refine .inr ⟨⟨error, rfl⟩, ?_⟩
    split at hrest
    · cases hrest
      exact ⟨hidle, hidle, rfl⟩
    · obtain ⟨⟨committed, l₁⟩, hcommit, hlast⟩ := Run.result_bind_eq_ok.mp hrest
      obtain ⟨rfl, _⟩ | ⟨⟨full, rfl⟩, hdeclines⟩ := commit_cases hn hcommit
      · cases hlast
      · cases hlast
        exact ⟨hidle, hdeclines.left, hdeclines.medium⟩

end Link

/-! ## What a handler may do to the medium -/

namespace Medium

variable {δ φ : Type} [Medium δ φ]

/-- The second medium is the first one after some emissions were armed or given up. -/
inductive Emits (m : δ) : δ → Prop where
  | refl : Emits m m
  | armSend {m' : δ} (size : Nat) : Emits m m' → Emits m (armSend m' size)
  | cancelSend {m' : δ} : Emits m m' → Emits m (cancelSend m').value

/-- Emissions leave the stream and the progress of the reception alone. -/
theorem Emits.stream {σ : Type} [Stream σ] {m m' : StreamMedium σ} (h : Emits m m') :
    m'.stream = m.stream ∧ m'.received = m.received := by
  induction h with
  | refl => exact ⟨rfl, rfl⟩
  | armSend size _ ih => exact ih
  | @cancelSend m' _ ih =>
    have hcancel : (Medium.cancelSend m').value = { m' with sent := 0 } := by
      simp only [Medium.cancelSend, StreamMedium.cancelSend]
      split <;> rfl
    rw [hcancel]
    exact ih

end Medium

namespace Link

variable {n : Nat} {δ φ : Type} [Medium δ φ] {l l' : Link n δ}

/-- Whatever comes of a payload in place, the medium was at most told to send. -/
theorem commit_emits {component operation channel : UInt8} {length : Nat} {result : Except TooLarge Unit}
    (h : (l.commit component operation channel length).result = .ok (result, l')) :
    Medium.Emits l.medium l'.medium := by
  obtain ⟨_, hrest⟩ := idle_of_requireIdle h
  split at hrest
  · cases hrest
    exact .refl
  · simp only [Run.result_bind, Run.result_lift, Outcomes.ok_bind, start_value, Run.result_pure] at hrest
    cases hrest
    exact .armSend _ .refl

theorem sendMessage_emits {m : Message} {result : Except TooLarge Unit}
    (h : (l.sendMessage m).result = .ok (result, l')) : Medium.Emits l.medium l'.medium := by
  obtain ⟨_, hrest⟩ := idle_of_requireIdle h
  split at hrest
  · cases hrest
    exact .refl
  · obtain ⟨_, hcommit⟩ := idle_of_requireIdle hrest
    have hemits := commit_emits hcommit
    exact hemits

theorem sendRequest_emits {channel : UInt8} {r : Request} {result : Except CapacityError Unit}
    (h : (l.sendRequest channel r).result = .ok (result, l')) : Medium.Emits l.medium l'.medium := by
  obtain ⟨_, hrest⟩ := idle_of_requireIdle h
  split at hrest
  · cases hrest
    exact .refl
  · obtain ⟨⟨committed, l₁⟩, hcommit, hlast⟩ := Run.result_bind_eq_ok.mp hrest
    have hemits := commit_emits hcommit
    cases hlast
    exact hemits

end Link

/-- The handler uses the link of an endpoint only to send. -/
class SendsOnly (η : Type) [Handler η] : Prop where
  onMessage : ∀ {n : Nat} {δ φ : Type} [Medium δ φ] {h h' : η} {m : Message} {l l' : Link n δ}, Header.size < n →
    (Handler.onMessage h m l).result = .ok (h', l') → Medium.Emits l.medium l'.medium
  onSent : ∀ {n : Nat} {δ φ : Type} [Medium δ φ] {h h' : η} {l l' : Link n δ}, Header.size < n →
    (Handler.onSent h l).result = .ok (h', l') → Medium.Emits l.medium l'.medium

/-- The handler breaks no rule of use. -/
def HandlerReturns (η : Type) [Handler η] : Prop :=
  ∀ {n : Nat} {δ φ : Type} [Medium δ φ], Header.size < n → ∀ (h : η) (l : Link n δ),
    (∀ m, ∃ r, (Handler.onMessage h m l).result = .ok r) ∧ ∃ r, (Handler.onSent h l).result = .ok r

instance : SendsOnly ResponseSlot where
  onMessage {n δ _ _ h h' m l l'} _ hrun := by
    simp only [Handler.onMessage, Run.result_bind, Run.result_lift, Outcomes.ok_bind, Run.result_pure,
      Except.ok.injEq, Prod.mk.injEq] at hrun
    rw [← hrun.2]
    exact .refl
  onSent {n δ _ _ h h' l l'} _ hrun := by
    simp only [Handler.onSent, Run.result_pure, Except.ok.injEq, Prod.mk.injEq] at hrun
    rw [← hrun.2]
    exact .refl

theorem ResponseSlot.returns : HandlerReturns ResponseSlot :=
  fun _ _ _ => ⟨fun _ => ⟨_, rfl⟩, ⟨_, rfl⟩⟩

end BusBridge

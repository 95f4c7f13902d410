import BusBridge.Line.Endpoint
import BusBridge.Proofs.Blocks
import BusBridge.Proofs.Framing
import BusBridge.Proofs.Journal
/-!
# Where an endpoint stands in its frame

The state of a reception is spread over the armed block, the receive buffer, and the count of bytes
that whoever transfers the block keeps. `Endpoint.Holds e received bytes` ties the three to one thing,
the bytes of the frame that have arrived: what is armed, how much of it is there, and what the buffer
holds all follow from them. `Endpoint.Filled e bytes` is the moment at which the armed block is
complete and has not been reported yet.

Two laws move between them. Bytes that arrive in the armed block (`Endpoint.Arrives`) extend the frame
(`Holds.arrive`, `Holds.fill`). Reporting the complete block hands over the message whose frame the
bytes are, or passes over a frame that is too long, or refuses a header, or goes on inside the frame;
`Endpoint.Reports` says once what each of these does, and `Endpoint.reports_of_filled` that there is
nothing else.
-/

namespace BusBridge

namespace Endpoint

open Framing

variable {n : Nat} {δ η : Type}

/-- `bytes` have arrived of the frame that the endpoint is receiving, the last `received` of them in the
armed block. -/
inductive Holds (e : Endpoint n δ η) : Nat → Bytes → Prop where
  | header {bytes : Bytes} : e.reception = .header → bytes.length < Header.size →
      e.inbox.bytes.take bytes.length = bytes → Holds e bytes.length bytes
  | payload {bytes : Bytes} {received length : Nat} : e.reception = .payload length →
      declared? bytes = some length → length ≤ e.capacity → bytes.length = Header.size + received → received < length →
      e.inbox.bytes.take bytes.length = bytes → Holds e received bytes
  /-- the armed block starts where `left` bytes of the frame are missing -/
  | skipping {bytes : Bytes} {received length left : Nat} : e.reception = .skipping left →
      declared? bytes = some length → e.capacity < length → left ≤ length →
      bytes.length + left = Header.size + length + received → received < min left e.capacity → Holds e received bytes

/-- The armed block is complete, and with it `bytes` have arrived of the frame. -/
inductive Filled (e : Endpoint n δ η) : Bytes → Prop where
  | header {bytes : Bytes} : e.reception = .header → bytes.length = Header.size →
      e.inbox.bytes.take bytes.length = bytes → Filled e bytes
  | payload {bytes : Bytes} {length : Nat} : e.reception = .payload length →
      declared? bytes = some length → length ≤ e.capacity → bytes.length = Header.size + length →
      e.inbox.bytes.take bytes.length = bytes → Filled e bytes
  | skipping {bytes : Bytes} {length left : Nat} : e.reception = .skipping left →
      declared? bytes = some length → e.capacity < length → 0 < left → left ≤ length →
      bytes.length + left = Header.size + length + min left e.capacity → Filled e bytes

/-- Where an endpoint stands depends on its reception and its receive buffer only. -/
theorem Holds.congr {δ' η' : Type} {e : Endpoint n δ η} {e' : Endpoint n δ' η'} {received : Nat} {bytes : Bytes}
    (h : e.Holds received bytes) (hreception : e'.reception = e.reception) (hinbox : e'.inbox = e.inbox) :
    e'.Holds received bytes := by
  cases h with
  | header hr hlt hkept => exact .header (hreception.trans hr) hlt (hinbox ▸ hkept)
  | payload hr hd hle hlen hlt hkept => exact .payload (hreception.trans hr) hd hle hlen hlt (hinbox ▸ hkept)
  | skipping hr hd hgt hle hlen hlt => exact .skipping (hreception.trans hr) hd hgt hle hlen hlt

/-- At a header nothing of a frame has arrived. -/
theorem Holds.fresh {e : Endpoint n δ η} (h : e.reception = .header) : e.Holds 0 [] :=
  @Holds.header n δ η e [] h (by decide) rfl

/-- The frame is never complete. -/
theorem Holds.unfinished {e : Endpoint n δ η} {received : Nat} {bytes : Bytes} (h : e.Holds received bytes) :
    Unfinished bytes := by
  intro length hlength
  cases h with
  | header hr hlt hkept =>
    rw [declared?_eq_none.mpr hlt] at hlength
    cases hlength
  | payload hr hd hle hlen hlt hkept =>
    cases hd.symm.trans hlength
    omega
  | skipping hr hd hgt hle hlen hlt =>
    cases hd.symm.trans hlength
    omega

/-- The armed block is never complete, and so never empty. -/
theorem Holds.received_lt {e : Endpoint n δ η} {received : Nat} {bytes : Bytes} (h : e.Holds received bytes) :
    received < e.armedSize := by
  cases h with
  | header hr hlt hkept => simpa only [armedSize, hr, Reception.size] using hlt
  | payload hr hd hle hlen hlt hkept => simpa only [armedSize, hr, Reception.size] using hlt
  | skipping hr hd hgt hle hlen hlt => simpa only [armedSize, hr, Reception.size] using hlt

/-- With a header that declares a fitting payload, and nothing behind it, the endpoint waits for the payload. -/
theorem Holds.waits {e : Endpoint n δ η} {received length : Nat} {bytes : Bytes} (h : e.Holds received bytes)
    (hd : declared? bytes = some length) (hfit : length ≤ e.capacity) (hsize : bytes.length = Header.size) :
    e.reception = .payload length := by
  cases h with
  | header hr hlt hkept => omega
  | payload hr hd' hle hlen hlt hkept =>
    cases hd.symm.trans hd'
    exact hr
  | skipping hr hd' hgt hle hlen hlt =>
    cases hd.symm.trans hd'
    exact absurd hfit (Nat.not_le_of_lt hgt)

/-! ## Bytes that arrive -/

section Arriving

/-- The second endpoint is the first one after `data` arrived in the armed block, behind `received` bytes
of it. What the block holds behind them does not matter. -/
structure Arrives (e e' : Endpoint n δ η) (received : Nat) (data : Bytes) : Prop where
  reception : e'.reception = e.reception
  front : e'.inbox.bytes.take (e.reception.offset + received + data.length) =
    e.inbox.bytes.take (e.reception.offset + received) ++ data

variable {e e' : Endpoint n δ η} {received : Nat} {bytes data : Bytes}

/-- The receive buffer has room for the armed block. -/
theorem Holds.room (h : e.Holds received bytes) (hn : Header.size < n) : e.reception.offset + e.armedSize ≤ n := by
  cases h with
  | header hr hlt hkept =>
    simp only [armedSize, hr, Reception.size, Reception.offset]
    omega
  | payload hr hd hle hlen hlt hkept =>
    simp only [armedSize, hr, Reception.size, Reception.offset, capacity] at hle ⊢
    omega
  | skipping hr hd hgt hle hlen hlt =>
    simp only [armedSize, hr, Reception.size, Reception.offset, capacity] at hlt ⊢
    omega

/-- The armed block is not empty, and the receive buffer has room for it. -/
structure Waits (e : Endpoint n δ η) : Prop where
  room : e.reception.offset + e.armedSize ≤ n
  pos : 0 < e.armedSize

theorem Waits.congr {δ' : Type} {e' : Endpoint n δ' η} (h : e.Waits) (hreception : e'.reception = e.reception) :
    e'.Waits := by
  have hsize : e'.armedSize = e.armedSize := by
    rw [armedSize, hreception]
    rfl
  exact ⟨hreception ▸ hsize ▸ h.room, hsize ▸ h.pos⟩

theorem waits_of_header (hn : Header.size < n) (h : e.reception = .header) : e.Waits := by
  refine ⟨?_, ?_⟩
  · simp only [armedSize, h, Reception.size, Reception.offset]
    omega
  · simp only [armedSize, h, Reception.size]
    decide

theorem length_armed (hroom : e.reception.offset + e.armedSize ≤ n) : e.armed.length = e.armedSize := by
  have hinbox := e.inbox.length_bytes
  simp only [armed, Buffer.slice, Bytes.length_slice]
  omega

/-- Bytes that are stored have arrived. -/
theorem arrives_store (hroom : e.reception.offset + e.armedSize ≤ n) (hfit : received + data.length ≤ e.armedSize) :
    e.Arrives (e.store received data) received data := by
  have hinbox := e.inbox.length_bytes
  have hdata : data.take (e.armedSize - received) = data := List.take_of_length_le (by omega)
  refine ⟨rfl, ?_⟩
  simp only [store, Buffer.overlay, hdata]
  exact Bytes.take_overlay (by omega)

theorem Arrives.trans {e₁ : Endpoint n δ η} {more : Bytes} (h : e.Arrives e₁ received data)
    (h₁ : e₁.Arrives e' (received + data.length) more) : e.Arrives e' received (data ++ more) := by
  have hfront := h₁.front
  rw [h.reception, ← Nat.add_assoc, h.front, Nat.add_assoc _ data.length, ← List.length_append,
    List.append_assoc] at hfront
  exact ⟨h₁.reception.trans h.reception, hfront⟩

/-- Bytes that arrived behind the ones that are there are kept with them. -/
theorem Arrives.kept (h : e.Arrives e' received data) (hkept : e.inbox.bytes.take bytes.length = bytes)
    (hoffset : e.reception.offset + received = bytes.length) :
    e'.inbox.bytes.take (bytes ++ data).length = bytes ++ data := by
  have hfront := h.front
  rwa [hoffset, hkept, ← List.length_append] at hfront

/-- Bytes that do not complete the armed block are more of the frame. -/
theorem Holds.arrive (h : e.Holds received bytes) (ha : e.Arrives e' received data)
    (hlt : received + data.length < e.armedSize) : e'.Holds (received + data.length) (bytes ++ data) := by
  cases h with
  | header hr hshort hkept =>
    have hkept' := ha.kept hkept (by simp [hr, Reception.offset])
    simp only [armedSize, hr, Reception.size] at hlt
    have hlen : bytes.length + data.length = (bytes ++ data).length := List.length_append.symm
    rw [hlen]
    exact .header (ha.reception.trans hr) (by omega) hkept'
  | payload hr hd hle hlen hrec hkept =>
    have hkept' := ha.kept hkept (by simp only [hr, Reception.offset]; omega)
    simp only [armedSize, hr, Reception.size] at hlt
    exact .payload (ha.reception.trans hr) (declared?_append hd data) hle (by rw [List.length_append]; omega)
      (by omega) hkept'
  | skipping hr hd hgt hle hlen hrec =>
    simp only [armedSize, hr, Reception.size] at hlt
    exact .skipping (ha.reception.trans hr) (declared?_append hd data) hgt hle (by rw [List.length_append]; omega) hlt

/-- Bytes that complete the armed block. -/
theorem Holds.fill (h : e.Holds received bytes) (ha : e.Arrives e' received data)
    (hfull : received + data.length = e.armedSize) : e'.Filled (bytes ++ data) := by
  cases h with
  | header hr hshort hkept =>
    have hkept' := ha.kept hkept (by simp [hr, Reception.offset])
    simp only [armedSize, hr, Reception.size] at hfull
    exact .header (ha.reception.trans hr) (by rw [List.length_append]; omega) hkept'
  | payload hr hd hle hlen hrec hkept =>
    have hkept' := ha.kept hkept (by simp only [hr, Reception.offset]; omega)
    simp only [armedSize, hr, Reception.size] at hfull
    exact .payload (ha.reception.trans hr) (declared?_append hd data) hle (by rw [List.length_append]; omega) hkept'
  | skipping hr hd hgt hle hlen hrec =>
    simp only [armedSize, hr, Reception.size] at hfull
    have hcapacity : e'.capacity = e.capacity := rfl
    exact .skipping (ha.reception.trans hr) (declared?_append hd data) hgt (by omega) hle
      (by rw [List.length_append, hcapacity]; omega)

/-- Bytes that do not complete the armed block do not complete a header either. -/
theorem Holds.declared?_store (h : e.Holds received bytes) (hlt : received + data.length < e.armedSize) :
    declared? (bytes ++ data) = declared? bytes := by
  cases h with
  | header hr hshort hkept =>
    simp only [armedSize, hr, Reception.size] at hlt
    rw [declared?_eq_none.mpr hshort, declared?_eq_none, List.length_append]
    exact hlt
  | payload hr hd hle hlen hrec hkept => rw [declared?_append hd, hd]
  | skipping hr hd hgt hle hlen hrec => rw [declared?_append hd, hd]

/-- Bytes that complete the armed block complete the header, if it was not complete before. -/
theorem Holds.declared?_fill (h : e.Holds received bytes) (hfull : received + data.length = e.armedSize) :
    (bytes.length < Header.size ∧ (bytes ++ data).length = Header.size) ∨
      ∃ length, declared? bytes = some length ∧ declared? (bytes ++ data) = some length ∧
        (bytes ++ data).length ≠ Header.size := by
  have hpos := h.received_lt
  cases h with
  | header hr hshort hkept =>
    simp only [armedSize, hr, Reception.size] at hfull
    exact .inl ⟨hshort, by rw [List.length_append]; exact hfull⟩
  | @payload bytes length _ hr hd hle hlen hrec hkept =>
    exact .inr ⟨_, hd, declared?_append hd data, by rw [List.length_append]; omega⟩
  | skipping hr hd hgt hle hlen hrec =>
    exact .inr ⟨_, hd, declared?_append hd data, by rw [List.length_append]; omega⟩

end Arriving

/-! ## Reporting a complete block -/

section Reporting

variable {e : Endpoint n δ η} {bytes : Bytes}

/-- A complete block ends a frame, or the frame goes on behind it. -/
theorem Filled.ends_or_goes_on (h : e.Filled bytes) :
    (∃ m : Message, m.payload.length ≤ maxPayload ∧ bytes = m.frame) ∨ Unfinished bytes := by
  by_cases hu : Unfinished bytes
  · exact .inr hu
  · simp only [Unfinished, Classical.not_forall, Nat.not_lt] at hu
    obtain ⟨length, hd, hle⟩ := hu
    have hlen : bytes.length = Header.size + length := by
      cases h with
      | header hr hlen hkept => omega
      | payload hr hd' hle' hlen hkept =>
        cases hd.symm.trans hd'
        omega
      | skipping hr hd' hgt hpos hle' hlen =>
        cases hd.symm.trans hd'
        omega
    have hmax := declared?_le hd
    obtain ⟨component, operation, channel, high, low, rest, rfl, rfl⟩ := declared?_eq_some.mp hd
    have hrest : rest.length = 256 * high.toNat + low.toNat := by
      simp only [List.length_cons, Header.size] at hlen
      omega
    exact .inl ⟨⟨component, operation, channel, rest⟩, by simpa only [hrest] using hmax,
      (frame_eq component operation channel high low hrest).symm⟩

/-- The header in the receive buffer is that of the message whose frame is there. -/
theorem header_eq_of_frame {m : Message} (hkept : e.inbox.bytes.take m.frame.length = m.frame) :
    e.header = m.header := by
  have hbytes : e.inbox.bytes = wire m.header ++ (m.payload ++ e.inbox.bytes.drop m.frame.length) := by
    rw [← List.append_assoc]
    exact (List.take_append_drop m.frame.length e.inbox.bytes).symm.trans (by rw [hkept]; rfl)
  rw [header, hbytes, read?_wire]
  rfl

/-- The header in the receive buffer declares what the bytes that are there declare. -/
theorem header_length_of_declared {length : Nat} (hkept : e.inbox.bytes.take bytes.length = bytes)
    (hd : declared? bytes = some length) : e.header.length.toNat = length := by
  obtain ⟨component, operation, channel, high, low, rest, rfl, rfl⟩ := declared?_eq_some.mp hd
  have hbytes := (List.take_append_drop _ e.inbox.bytes).symm.trans (congrArg (· ++ _) hkept)
  rw [header, hbytes]
  simp only [List.cons_append, read?_cons, Option.getD_some, toNat_length]

variable {φ : Type} [Medium δ φ]

/-- A new endpoint waits for a header. -/
theorem attach_fresh (hn : Header.size < n) (medium : δ) (handler : η) : (attach n medium handler).result =
    .ok ⟨.idle (Medium.armReceive medium Header.size), .zeroed n, .header, handler, 0⟩ := by
  rw [attach, if_neg (Nat.not_le_of_lt hn)]
  rfl

/-- The buffer of an endpoint holds a header. -/
theorem attach_ok {medium : δ} {handler : η} {e : Endpoint n δ η} (h : (attach n medium handler).result = .ok e) :
    Header.size < n ∧ e = ⟨.idle (Medium.armReceive medium Header.size), .zeroed n, .header, handler, 0⟩ := by
  by_cases hn : n ≤ Header.size
  · rw [attach, if_pos hn] at h
    cases h
  · rw [attach_fresh (Nat.lt_of_not_le hn)] at h
    cases h
    exact ⟨Nat.lt_of_not_le hn, rfl⟩

variable [Handler η]

/-- Handing a message over is giving it to the handler together with the link. -/
theorem deliver_result (e : Endpoint n δ η) (h : Header) :
    (e.deliver h).result =
      (Handler.onMessage e.handler ⟨h.component, h.operation, h.channel,
        (e.inbox.slice 0 (Header.size + h.length.toNat)).drop Header.size⟩ e.link).result >>= fun r =>
      .ok { e with handler := r.1, link := r.2 } := by
  simp only [deliver]
  split <;> simp only [Run.result_bind, Run.result_lift, Outcomes.ok_bind, Run.result_pure]

/-- A frame that is in the receive buffer is handed over as the message that it is the frame of. -/
theorem deliver_frame {m : Message} (hkept : e.inbox.bytes.take m.frame.length = m.frame)
    (hmax : m.payload.length ≤ maxPayload) :
    (e.deliver e.header).result = (Handler.onMessage e.handler m e.link).result >>= fun r =>
      .ok { e with handler := r.1, link := r.2 } := by
  have hslice : (e.inbox.slice 0 (Header.size + m.header.length.toNat)).drop Header.size = m.payload := by
    rw [toNat_header_length hmax, ← length_frame]
    simp only [Buffer.slice, Bytes.slice, List.drop_zero, hkept]
    simp only [Message.frame, wire_header, List.cons_append, List.nil_append, List.drop_succ_cons, List.drop_zero]
  rw [deliver_result, header_eq_of_frame hkept, hslice]
  rfl

/-- A block that ends a frame of a fitting length hands its message over, then waits for a header. -/
theorem blockReceived_deliver {m : Message} (h : e.Filled m.frame) (hmax : m.payload.length ≤ maxPayload)
    (hfit : m.payload.length ≤ e.capacity) :
    e.blockReceived.result = (Handler.onMessage e.handler m e.link).result >>= fun r =>
      .ok (.ok (), (arm { e with handler := r.1, link := r.2 } .header).value) := by
  have hlen := length_frame m
  cases h with
  | header hr hsize hkept =>
    have hzero : e.header.length.toNat = 0 := by
      rw [header_eq_of_frame hkept, toNat_header_length hmax]
      omega
    simp only [blockReceived, hr, hzero, if_true, Run.result_bind, Run.result_lift, Outcomes.ok_bind,
      deliver_frame hkept hmax, Run.result_pure, bind_assoc]
  | payload hr hd hle hsize hkept =>
    simp only [blockReceived, hr, Run.result_bind, Run.result_lift, Outcomes.ok_bind, deliver_frame hkept hmax,
      Run.result_pure, bind_assoc]
  | skipping hr hd hgt hpos hle hsize =>
    cases (declared?_frame hmax).symm.trans hd
    omega

/-- A block that ends a frame that is too long is passed over. -/
theorem blockReceived_pass {m : Message} (h : e.Filled m.frame) (hn : Header.size < n)
    (hmax : m.payload.length ≤ maxPayload) (hlong : e.capacity < m.payload.length) :
    e.blockReceived.result = .ok (.ok (), (e.arm .header).value) := by
  have hlen := length_frame m
  cases h with
  | header hr hsize hkept => omega
  | payload hr hd hle hsize hkept =>
    cases (declared?_frame hmax).symm.trans hd
    omega
  | @skipping length left hr hd hgt hpos hle hsize =>
    cases (declared?_frame hmax).symm.trans hd
    have hcapacity : 0 < e.capacity := by
      simp only [capacity]
      omega
    have hlast : left - e.capacity = 0 := by omega
    simp only [blockReceived, hr, hlast, if_true, Run.result_bind, Run.result_lift, Outcomes.ok_bind, Run.result_pure]

/-- A header that declares more than the buffer holds is refused, and its frame skipped. -/
theorem blockReceived_refuse {length : Nat} (h : e.Filled bytes) (hn : Header.size < n)
    (hsize : bytes.length = Header.size) (hd : declared? bytes = some length) (hlong : e.capacity < length) :
    e.blockReceived.result =
      .ok (.error ⟨length, e.capacity⟩, (arm { e with oversized := e.oversized.plus 1 } (.skipping length)).value) ∧
    (arm { e with oversized := e.oversized.plus 1 } (.skipping length)).value.Holds 0 bytes := by
  have hcapacity : 0 < e.capacity := by
    simp only [capacity]
    omega
  cases h with
  | header hr hsize hkept =>
    have hlength := header_length_of_declared hkept hd
    refine ⟨?_, .skipping rfl hd hlong (Nat.le_refl length) (by omega) ?_⟩
    · have hzero : length ≠ 0 := by omega
      simp only [blockReceived, hr, hlength, hzero, if_false, hlong, if_true, Run.result_bind, Run.result_lift,
        Outcomes.ok_bind, Run.result_pure]
      rfl
    · simp only [capacity] at hcapacity hlong ⊢
      omega
  | payload hr hd' hle hsize' hkept =>
    cases hd.symm.trans hd'
    omega
  | @skipping length' left hr hd' hgt hpos hle hsize' =>
    cases hd.symm.trans hd'
    omega

/-- Any other block inside a frame is followed by the next one. -/
theorem blockReceived_proceed {length : Nat} (h : e.Filled bytes) (hn : Header.size < n) (hu : Unfinished bytes)
    (hd : declared? bytes = some length) (hinside : bytes.length = Header.size → length ≤ e.capacity) :
    ∃ reception, e.blockReceived.result = .ok (.ok (), (e.arm reception).value) ∧
      (e.arm reception).value.Holds 0 bytes := by
  have hopen := hu length hd
  cases h with
  | header hr hsize hkept =>
    have hlength := header_length_of_declared hkept hd
    have hfit := hinside hsize
    have hzero : length ≠ 0 := by omega
    refine ⟨.payload length, ?_, .payload rfl hd hfit hsize (by omega) hkept⟩
    simp only [blockReceived, hr, hlength, hzero, if_false, Nat.not_lt.mpr hfit, Run.result_bind,
      Run.result_lift, Outcomes.ok_bind, Run.result_pure]
  | payload hr hd' hle hsize hkept =>
    cases hd.symm.trans hd'
    omega
  | @skipping length' left hr hd' hgt hpos hle hsize =>
    cases hd.symm.trans hd'
    have hmore : left - e.capacity ≠ 0 := by omega
    refine ⟨.skipping (left - e.capacity), ?_, .skipping rfl hd hgt (by omega) (by omega) ?_⟩
    · simp only [blockReceived, hr, hmore, if_false, Run.result_bind, Run.result_lift, Outcomes.ok_bind,
        Run.result_pure]
    · simp only [capacity] at hmore hgt ⊢
      omega

/-- What reporting a complete block can do, where `before` had arrived of the frame before the block was
completed and `bytes` with it. -/
inductive Reports (e : Endpoint n δ η) (before bytes : Bytes) : Except Oversized Unit → Endpoint n δ η → Prop where
  /-- the frame is complete and its message is handed over -/
  | deliver {m : Message} {r : η × Link n δ} : bytes = m.frame → m.payload.length ≤ maxPayload →
      m.payload.length ≤ e.capacity → (Handler.onMessage e.handler m e.link).result = .ok r →
      Reports e before bytes (.ok ()) (arm { e with handler := r.1, link := r.2 } .header).value
  /-- the frame is complete and too long -/
  | pass {m : Message} : bytes = m.frame → m.payload.length ≤ maxPayload → e.capacity < m.payload.length →
      declared? before = some m.payload.length → Reports e before bytes (.ok ()) (e.arm .header).value
  /-- the header is complete and declares too much -/
  | refuse {length : Nat} : before.length < Header.size → declared? bytes = some length → e.capacity < length →
      (arm { e with oversized := e.oversized.plus 1 } (.skipping length)).value.Holds 0 bytes →
      Reports e before bytes (.error ⟨length, e.capacity⟩)
        (arm { e with oversized := e.oversized.plus 1 } (.skipping length)).value
  /-- the frame goes on -/
  | proceed {length : Nat} {reception : Reception} : declared? bytes = some length →
      declared? before = some length ∨ before.length < Header.size ∧ length ≤ e.capacity →
      (e.arm reception).value.Holds 0 bytes → Reports e before bytes (.ok ()) (e.arm reception).value

/-- Every report is one of these. -/
theorem reports_of_filled {before data : Bytes} {received : Nat} {result : Except Oversized Unit} {e' : Endpoint n δ η}
    {stored : Endpoint n δ η} (h : e.Holds received before) (hn : Header.size < n) (ha : e.Arrives stored received data)
    (hfull : received + data.length = e.armedSize) (hrun : stored.blockReceived.result = .ok (result, e')) :
    stored.Reports before (before ++ data) result e' := by
  have hfilled := h.fill ha hfull
  have hdeclared := h.declared?_fill hfull
  obtain ⟨m, hmax, hframe⟩ | hopen := hfilled.ends_or_goes_on
  · rw [hframe] at hfilled
    by_cases hfit : m.payload.length ≤ stored.capacity
    · rw [blockReceived_deliver hfilled hmax hfit, Outcomes.bind_eq_ok] at hrun
      obtain ⟨r, hr, hrest⟩ := hrun
      cases hrest
      exact .deliver hframe hmax hfit hr
    · have hlong := Nat.lt_of_not_le hfit
      rw [blockReceived_pass hfilled hn hmax hlong] at hrun
      cases hrun
      refine .pass hframe hmax hlong ?_
      obtain ⟨_, hsize⟩ | ⟨length, hbefore, hafter, _⟩ := hdeclared
      · rw [hframe, length_frame] at hsize
        omega
      · rw [hframe, declared?_frame hmax] at hafter
        rw [hbefore, hafter]
  · obtain ⟨hshort, hsize⟩ | ⟨length, hbefore, hafter, hinside⟩ := hdeclared
    · obtain ⟨length, hd⟩ : ∃ length, declared? (before ++ data) = some length := by
        cases hd : declared? (before ++ data) with
        | none =>
          rw [declared?_eq_none] at hd
          omega
        | some length => exact ⟨length, rfl⟩
      by_cases hfit : length ≤ stored.capacity
      · obtain ⟨reception, hresult, hholds⟩ := blockReceived_proceed hfilled hn hopen hd fun _ => hfit
        cases hresult.symm.trans hrun
        exact .proceed hd (.inr ⟨hshort, hfit⟩) hholds
      · obtain ⟨hresult, hholds⟩ := blockReceived_refuse hfilled hn hsize hd (Nat.lt_of_not_le hfit)
        cases hresult.symm.trans hrun
        exact .refuse hshort hd (Nat.lt_of_not_le hfit) hholds
    · obtain ⟨reception, hresult, hholds⟩ := blockReceived_proceed hfilled hn hopen hafter fun h => absurd h hinside
      cases hresult.symm.trans hrun
      exact .proceed hafter (.inl hbefore) hholds

/-- The handler and the link after a report: a message was handed over to them, or they are as they were.
Either way the next block is armed. -/
inductive HandsOver (e e' : Endpoint n δ η) : List Message → Prop where
  | nothing {size : Nat} : e'.handler = e.handler →
      e'.link = { e.link with medium := Medium.armReceive e.link.medium size } → HandsOver e e' []
  | message {m : Message} {handler : η} {link : Link n δ} {size : Nat} :
      (Handler.onMessage e.handler m e.link).result = .ok (handler, link) → e'.handler = handler →
      e'.link = { link with medium := Medium.armReceive link.medium size } → HandsOver e e' [m]

/-- What the report of a complete block comes to. -/
inductive Verdict where
  /-- the frame is complete and is handed over -/
  | deliver
  /-- the header declares too much -/
  | refuse (length : Nat)
  /-- another block is armed -/
  | proceed (reception : Reception)

/-- The verdict depends on the armed block and on the header in the receive buffer. -/
def verdict (e : Endpoint n δ η) : Verdict :=
  match e.reception with
  | .header =>
    if e.header.length.toNat = 0 then .deliver
    else if e.header.length.toNat > e.capacity then .refuse e.header.length.toNat
    else .proceed (.payload e.header.length.toNat)
  | .payload _ => .deliver
  | .skipping left => .proceed (if left - e.capacity = 0 then .header else .skipping (left - e.capacity))

/-- A report does what its verdict says. -/
theorem blockReceived_result (e : Endpoint n δ η) : e.blockReceived.result =
    match e.verdict with
    | .deliver => (e.deliver e.header).result >>= fun e₁ => .ok (.ok (), (e₁.arm .header).value)
    | .refuse length =>
      .ok (.error ⟨length, e.capacity⟩, (arm { e with oversized := e.oversized.plus 1 } (.skipping length)).value)
    | .proceed reception => .ok (.ok (), (e.arm reception).value) := by
  unfold blockReceived verdict
  cases e.reception with
  | header =>
    by_cases hzero : e.header.length.toNat = 0
    · simp only [if_pos hzero, Run.result_bind, Run.result_lift, Outcomes.ok_bind, Run.result_pure]
    · by_cases hlong : e.header.length.toNat > e.capacity
      · simp only [if_neg hzero, if_pos hlong, Run.result_bind, Run.result_lift, Outcomes.ok_bind, Run.result_pure]
        rfl
      · simp only [if_neg hzero, if_neg hlong, Run.result_bind, Run.result_lift, Outcomes.ok_bind, Run.result_pure]
  | payload length => simp only [Run.result_bind, Run.result_lift, Outcomes.ok_bind, Run.result_pure]
  | skipping left => rfl

/-- Every report hands over one message or none, wherever the endpoint stands. -/
theorem handsOver_of_blockReceived {report : Except Oversized Unit} {e' : Endpoint n δ η}
    (h : e.blockReceived.result = .ok (report, e')) : ∃ delivered, e.HandsOver e' delivered := by
  rw [blockReceived_result] at h
  cases hverdict : e.verdict with
  | deliver =>
    rw [hverdict] at h
    obtain ⟨e₁, hdeliver, hrest⟩ := Outcomes.bind_eq_ok.mp h
    rw [deliver_result, Outcomes.bind_eq_ok] at hdeliver
    obtain ⟨r, hr, hlast⟩ := hdeliver
    cases hlast
    cases hrest
    exact ⟨_, .message hr rfl rfl⟩
  | refuse length =>
    rw [hverdict] at h
    cases h
    exact ⟨[], .nothing rfl rfl⟩
  | proceed reception =>
    rw [hverdict] at h
    cases h
    exact ⟨[], .nothing rfl rfl⟩

/-- After every report the endpoint waits for a block, and a refusal leaves the frame on the link alone. -/
theorem waits_of_blockReceived {report : Except Oversized Unit} {e' : Endpoint n δ η} (hn : Header.size < n)
    (h : e.blockReceived.result = .ok (report, e')) :
    e'.Waits ∧ ∀ oversized, report = .error oversized → e'.link.armed? = e.link.armed? := by
  rw [blockReceived_result] at h
  unfold verdict at h
  cases hr : e.reception with
  | header =>
    simp only [hr] at h
    by_cases hzero : e.header.length.toNat = 0
    · simp only [if_pos hzero] at h
      obtain ⟨e₁, _, hrest⟩ := Outcomes.bind_eq_ok.mp h
      cases hrest
      exact ⟨waits_of_header hn rfl, fun _ herror => by cases herror⟩
    · by_cases hlong : e.header.length.toNat > e.capacity
      · simp only [if_neg hzero, if_pos hlong] at h
        cases h
        refine ⟨⟨?_, ?_⟩, fun _ _ => rfl⟩
        · change Header.size + min _ (n - Header.size) ≤ n
          omega
        · change 0 < min _ (n - Header.size)
          omega
      · simp only [if_neg hzero, if_neg hlong] at h
        cases h
        refine ⟨⟨?_, Nat.pos_of_ne_zero hzero⟩, fun _ herror => by cases herror⟩
        rw [capacity] at hlong
        change Header.size + e.header.length.toNat ≤ n
        omega
  | payload length =>
    simp only [hr] at h
    obtain ⟨e₁, _, hrest⟩ := Outcomes.bind_eq_ok.mp h
    cases hrest
    exact ⟨waits_of_header hn rfl, fun _ herror => by cases herror⟩
  | skipping left =>
    simp only [hr] at h
    by_cases hzero : left - e.capacity = 0
    · simp only [if_pos hzero] at h
      cases h
      exact ⟨waits_of_header hn rfl, fun _ herror => by cases herror⟩
    · simp only [if_neg hzero] at h
      cases h
      rw [capacity] at hzero
      refine ⟨⟨?_, ?_⟩, fun _ herror => by cases herror⟩
      · change Header.size + min (left - (n - Header.size)) (n - Header.size) ≤ n
        omega
      · change 0 < min (left - (n - Header.size)) (n - Header.size)
        omega

/-- The oversized frame that a report tells of. -/
def refused : Except Oversized Unit → List Oversized
  | .ok _ => []
  | .error o => [o]

/-- What a report does, said of the bytes that arrived so far: the endpoint goes on where their parse ends, the
frame that they complete is handed over if it fits, and a length that they declare first is counted and reported if
it does not. -/
structure Advances (e : Endpoint n δ η) (taken new : Bytes) (result : Except Oversized Unit) (e' : Endpoint n δ η)
    (delivered : List Message) (late : List Nat) : Prop where
  holds : e'.Holds 0 (parse (taken ++ new)).2
  fitting : fitting e.capacity ((parse taken).2 ++ new) = delivered
  excess : excess e.capacity (taken ++ new) = excess e.capacity taken ++ late
  oversized : e'.oversized = e.oversized.plus late.length
  refused : refused result = late.map fun length => ⟨length, e.capacity⟩
  handsOver : e.HandsOver e' delivered

theorem Reports.advance {taken new : Bytes} {result : Except Oversized Unit} {e' : Endpoint n δ η}
    (h : e.Reports (parse taken).2 ((parse taken).2 ++ new) result e') :
    ∃ delivered late, e.Advances taken new result e' delivered late := by
  have hopen := unfinished_parse taken
  cases h with
  | @deliver m r hframe hmax hfit honMessage =>
    refine ⟨[m], [], ?_, ?_, excess_grows ?_, (Counter.plus_zero _).symm, rfl, .message honMessage rfl rfl⟩
    · rw [parse_append, hframe, parse_single hmax]
      exact .fresh rfl
    · rw [hframe, fitting_frame hmax, if_pos hfit]
    · -- a header that was there before declares the same length
      have hbefore : ∀ length, declared? (parse taken).2 = some length → ¬e.capacity < length := by
        intro length hlength
        have hafter := declared?_append hlength new
        rw [hframe, declared?_frame hmax] at hafter
        cases hafter
        exact Nat.not_lt_of_le hfit
      rw [hframe, excess_frame hmax, if_neg (Nat.not_lt_of_le hfit), excess_unfinished _ hopen]
      cases hd : declared? (parse taken).2 with
      | none => rfl
      | some length => simp [hbefore length hd]
  | @pass m hframe hmax hlong hbefore =>
    refine ⟨[], [], ?_, ?_, excess_grows ?_, (Counter.plus_zero _).symm, rfl, .nothing rfl rfl⟩
    · rw [parse_append, hframe, parse_single hmax]
      exact .fresh rfl
    · rw [hframe, fitting_frame hmax, if_neg (Nat.not_le_of_lt hlong)]
    · rw [hframe, excess_frame hmax, excess_unfinished _ hopen, hbefore]
      simp [hlong]
  | @refuse length hshort hdeclared hlong hholds =>
    refine ⟨[], [length], ?_, ?_, excess_grows ?_, rfl, rfl, .nothing rfl rfl⟩
    · rw [parse_append, parse_unfinished hholds.unfinished]
      exact hholds
    · rw [fitting_unfinished _ hholds.unfinished]
    · rw [excess_unfinished _ hholds.unfinished, excess_unfinished _ hopen, hdeclared, declared?_eq_none.mpr hshort]
      simp [hlong]
  | @proceed length reception hdeclared hbefore hholds =>
    refine ⟨[], [], ?_, ?_, excess_grows ?_, (Counter.plus_zero _).symm, rfl, .nothing rfl rfl⟩
    · rw [parse_append, parse_unfinished hholds.unfinished]
      exact hholds
    · rw [fitting_unfinished _ hholds.unfinished]
    · rw [excess_unfinished _ hholds.unfinished, excess_unfinished _ hopen, hdeclared]
      rcases hbefore with hsame | ⟨hshort, hfit⟩
      · rw [hsame, List.append_nil]
      · rw [declared?_eq_none.mpr hshort]
        simp [Nat.not_lt_of_le hfit]

end Reporting

end Endpoint

end BusBridge

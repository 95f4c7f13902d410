import BusBridge.Wire.Message
/-!
# The frames of a byte string

`Framing.parse` is what a byte string means as a sequence of frames: five bytes of header, the last
two of which are the payload length, big endian; then that many bytes of payload; and so on. It gives
the frames that are there as a whole, and the bytes of the one that is not. It knows nothing of
buffers, blocks, media or errors, and shares no code with the endpoints that are measured against it.

Three laws make it a reference. A written message is read back, whatever follows it
(`Framing.parse_frame`). What is read was written: the frames and the bytes left over concatenate to
the whole string (`Framing.flatten_parse`). And reading can be cut anywhere: the bytes left over are
all that has to be remembered of what came before (`Framing.parse_append`).

A reader with a limited buffer keeps some of the frames, `Framing.fitting`, and refuses the others as
soon as their headers are complete, `Framing.excess`.
-/

namespace BusBridge

namespace Framing

/-- The payload length that the header at the start of a byte string declares, if all of the header is
there. -/
def declared? : Bytes → Option Nat
  | _ :: _ :: _ :: high :: low :: _ => some (256 * high.toNat + low.toNat)
  | _ => none

/-- The complete frames of a byte string, and the bytes that follow them. -/
def parse : Bytes → List Message × Bytes
  | component :: operation :: channel :: high :: low :: rest =>
    let length := 256 * high.toNat + low.toNat
    if length ≤ rest.length then
      let (frames, left) := parse (rest.drop length)
      (⟨component, operation, channel, rest.take length⟩ :: frames, left)
    else
      ([], component :: operation :: channel :: high :: low :: rest)
  | bytes => ([], bytes)
termination_by bytes => bytes.length
decreasing_by simp only [List.length_drop, List.length_cons]; omega

/-- The bytes are the beginning of a frame and not all of it. -/
def Unfinished (bytes : Bytes) : Prop :=
  ∀ length, declared? bytes = some length → bytes.length < Header.size + length

/-! ## Headers -/

theorem declared?_eq_none {bytes : Bytes} : declared? bytes = none ↔ bytes.length < Header.size := by
  match bytes with
  | [] | [_] | [_, _] | [_, _, _] | [_, _, _, _] => simp [declared?, Header.size]
  | _ :: _ :: _ :: _ :: _ :: _ => simp [declared?, Header.size]

theorem declared?_eq_some {bytes : Bytes} {length : Nat} :
    declared? bytes = some length ↔ ∃ component operation channel high low rest,
      bytes = component :: operation :: channel :: high :: low :: rest ∧ 256 * high.toNat + low.toNat = length := by
  constructor
  · intro h
    match bytes with
    | [] | [_] | [_, _] | [_, _, _] | [_, _, _, _] => simp [declared?] at h
    | component :: operation :: channel :: high :: low :: rest =>
      exact ⟨component, operation, channel, high, low, rest, rfl, Option.some.inj h⟩
  · rintro ⟨component, operation, channel, high, low, rest, rfl, rfl⟩
    rfl

/-- What a header declares does not change when bytes follow it. -/
theorem declared?_append {bytes : Bytes} {length : Nat} (h : declared? bytes = some length) (more : Bytes) :
    declared? (bytes ++ more) = some length := by
  obtain ⟨component, operation, channel, high, low, rest, rfl, rfl⟩ := declared?_eq_some.mp h
  rfl

/-- A length of two bytes never exceeds the largest payload. -/
theorem declared?_le {bytes : Bytes} {length : Nat} (h : declared? bytes = some length) : length ≤ maxPayload := by
  obtain ⟨component, operation, channel, high, low, rest, rfl, rfl⟩ := declared?_eq_some.mp h
  have hhigh := high.toNat_lt
  have hlow := low.toNat_lt
  simp only [maxPayload]
  omega

/-- Reading a header gives the declared length. -/
theorem read?_cons (component operation channel high low : UInt8) (rest : Bytes) :
    Header.read? (component :: operation :: channel :: high :: low :: rest) =
      some ⟨component, operation, channel, UInt16.ofNat (256 * high.toNat + low.toNat)⟩ := by
  simp only [Header.read?, Packed.read, ByteOrder.read, ByteOrder.value, ByteOrder.littleValue, List.length_cons,
    List.take_succ_cons, List.take_zero, List.reverse_cons, List.reverse_nil, List.nil_append, List.cons_append,
    Nat.le_add_left, if_true, Option.map_some, Nat.mul_zero, Nat.add_zero]
  rw [Nat.add_comm]

theorem toNat_length (high low : UInt8) :
    (UInt16.ofNat (256 * high.toNat + low.toNat)).toNat = 256 * high.toNat + low.toNat := by
  have hhigh := high.toNat_lt
  have hlow := low.toNat_lt
  simp only [UInt16.toNat_ofNat']
  omega

/-- The five bytes of a header. -/
theorem wire_header (h : Header) :
    wire h = [h.component, h.operation, h.channel, UInt8.ofNat (h.length.toNat / 256),
      UInt8.ofNat (h.length.toNat % 256)] := by
  have hlength := h.length.toNat_lt
  have hhigh : h.length.toNat / 256 % 256 = h.length.toNat / 256 := Nat.mod_eq_of_lt (by omega)
  simp [wire, Packed.bytes, ByteOrder.bytes, ByteOrder.littleBytes, hhigh]

/-- A written header is read back, whatever follows it. -/
theorem read?_wire (h : Header) (rest : Bytes) : Header.read? (wire h ++ rest) = some h := by
  have hlength := h.length.toNat_lt
  have hbytes : 256 * (UInt8.ofNat (h.length.toNat / 256)).toNat + (UInt8.ofNat (h.length.toNat % 256)).toNat =
      h.length.toNat := by
    simp only [UInt8.toNat_ofNat']
    omega
  simp only [wire_header, List.cons_append, List.nil_append, read?_cons, hbytes, UInt16.ofNat_toNat]

/-- A message declares the length of its payload. -/
theorem toNat_header_length {m : Message} (h : m.payload.length ≤ maxPayload) :
    m.header.length.toNat = m.payload.length := by
  simp only [Message.header, UInt16.toNat_ofNat', maxPayload] at h ⊢
  omega

theorem unfinished_nil : Unfinished [] := by
  intro length h
  simp [declared?] at h

/-! ## Laws of the parse -/

theorem parse_unfinished {bytes : Bytes} (h : Unfinished bytes) : parse bytes = ([], bytes) := by
  match bytes with
  | [] | [_] | [_, _] | [_, _, _] | [_, _, _, _] => simp [parse]
  | component :: operation :: channel :: high :: low :: rest =>
    have hshort := h _ rfl
    simp only [List.length_cons, Header.size] at hshort
    rw [parse, if_neg (by omega)]

/-- The bytes that are left over are the beginning of a frame. -/
theorem unfinished_parse (bytes : Bytes) : Unfinished (parse bytes).2 := by
  fun_induction parse bytes with
  | case1 component operation channel high low rest length hle frames left hrest ih =>
    simpa only [hrest] using ih
  | case2 component operation channel high low rest length hlt =>
    intro d hd
    simp only [declared?, Option.some.injEq] at hd
    simp only [List.length_cons, Header.size]
    omega
  | case3 bytes hshort =>
    intro d hd
    match bytes with
    | [] | [_] | [_, _] | [_, _, _] | [_, _, _, _] => simp [declared?] at hd
    | component :: operation :: channel :: high :: low :: rest =>
      exact absurd rfl (hshort component operation channel high low rest)

/-- Reading can be cut anywhere: what is left over of the first part is read again with the second. -/
theorem parse_append (bytes more : Bytes) :
    parse (bytes ++ more) =
      ((parse bytes).1 ++ (parse ((parse bytes).2 ++ more)).1, (parse ((parse bytes).2 ++ more)).2) := by
  fun_induction parse bytes with
  | case1 component operation channel high low rest length hle frames left hrest ih =>
    simp only [hrest] at ih
    have hdrop : (rest ++ more).drop length = rest.drop length ++ more := List.drop_append_of_le_length hle
    have htake : (rest ++ more).take length = rest.take length := List.take_append_of_le_length hle
    simp only [List.cons_append, parse]
    rw [if_pos (by simp only [List.length_append]; omega)]
    simp only [length] at hdrop htake
    simp only [hdrop, htake, ih, length]
  | case2 component operation channel high low rest length hlt => simp
  | case3 bytes hshort => simp

/-- A message whose payload has the length of two given bytes carries these bytes in its frame. -/
theorem frame_eq (component operation channel high low : UInt8) {payload : Bytes}
    (h : payload.length = 256 * high.toNat + low.toNat) :
    (⟨component, operation, channel, payload⟩ : Message).frame =
      component :: operation :: channel :: high :: low :: payload := by
  have hhigh := high.toNat_lt
  have hlow := low.toNat_lt
  have hle : 256 * high.toNat + low.toNat ≤ maxPayload := by
    simp only [maxPayload]
    omega
  have hdiv : (256 * high.toNat + low.toNat) / 256 = high.toNat := by omega
  have hmod : (256 * high.toNat + low.toNat) % 256 = low.toNat := by omega
  simp only [Message.frame, Message.header, wire_header, h, Nat.min_eq_left hle, toNat_length, hdiv, hmod,
    UInt8.ofNat_toNat, List.cons_append, List.nil_append]

/-- The bytes of any payload length that a header can declare. -/
theorem exists_length {length : Nat} (h : length ≤ maxPayload) :
    ∃ high low : UInt8, 256 * high.toNat + low.toNat = length := by
  refine ⟨UInt8.ofNat (length / 256), UInt8.ofNat (length % 256), ?_⟩
  simp only [UInt8.toNat_ofNat', maxPayload] at h ⊢
  omega

theorem declared?_frame {m : Message} (h : m.payload.length ≤ maxPayload) :
    declared? m.frame = some m.payload.length := by
  obtain ⟨component, operation, channel, payload⟩ := m
  obtain ⟨high, low, hlength⟩ := exists_length h
  rw [frame_eq component operation channel high low hlength.symm]
  exact congrArg some hlength

/-- A header declares the length of the payload behind it. -/
theorem declared?_wire {m : Message} (h : m.payload.length ≤ maxPayload) :
    declared? (wire m.header) = some m.payload.length := by
  obtain ⟨component, operation, channel, high, low, rest, hframe, hlength⟩ := declared?_eq_some.mp (declared?_frame h)
  rw [Message.frame, wire_header] at hframe
  rw [wire_header, ← hlength]
  injection hframe with _ hframe
  injection hframe with _ hframe
  injection hframe with _ hframe
  injection hframe with hhigh hframe
  injection hframe with hlow _
  rw [declared?, hhigh, hlow]

theorem length_frame (m : Message) : m.frame.length = Header.size + m.payload.length := by
  simp only [Message.frame, wire_header, List.length_append, List.length_cons, List.length_nil, Header.size]

/-- A written message is read back, whatever follows it. -/
theorem parse_frame {m : Message} (h : m.payload.length ≤ maxPayload) (rest : Bytes) :
    parse (m.frame ++ rest) = (m :: (parse rest).1, (parse rest).2) := by
  obtain ⟨component, operation, channel, payload⟩ := m
  obtain ⟨high, low, hlength⟩ := exists_length h
  simp only at hlength
  rw [frame_eq component operation channel high low hlength.symm]
  simp only [List.cons_append, parse]
  rw [if_pos (by simp only [List.length_append]; omega), hlength, List.drop_left, List.take_left]

theorem parse_single {m : Message} (h : m.payload.length ≤ maxPayload) : parse m.frame = ([m], []) := by
  have hparse := parse_frame h []
  rwa [List.append_nil, parse_unfinished unfinished_nil] at hparse

/-- Frames in a row are read one by one. -/
theorem parse_frames {messages : List Message} (h : ∀ m ∈ messages, m.payload.length ≤ maxPayload) :
    parse (messages.flatMap Message.frame) = (messages, []) := by
  induction messages with
  | nil => exact parse_unfinished unfinished_nil
  | cons m rest ih =>
    rw [List.flatMap_cons, parse_frame (h m (.head _)), ih fun m' hm' => h m' (.tail _ hm')]

/-- Every frame that is read has a length that a header can declare. -/
theorem parse_max (bytes : Bytes) : ∀ m ∈ (parse bytes).1, m.payload.length ≤ maxPayload := by
  fun_induction parse bytes with
  | case1 component operation channel high low rest length hle frames left hrest ih =>
    intro m hm
    rcases List.mem_cons.mp hm with rfl | hlater
    · have hlength := @declared?_le (component :: operation :: channel :: high :: low :: rest) length rfl
      exact Nat.le_trans (List.length_take_le _ _) hlength
    · exact ih m (by rw [hrest]; exact hlater)
  | case2 component operation channel high low rest length hlt =>
    intro m hm
    cases hm
  | case3 bytes hshort =>
    intro m hm
    cases hm

/-- What is read was written: the frames and the bytes left over are the whole string. -/
theorem flatten_parse (bytes : Bytes) : (parse bytes).1.flatMap Message.frame ++ (parse bytes).2 = bytes := by
  fun_induction parse bytes with
  | case1 component operation channel high low rest length hle frames left hrest ih =>
    simp only [hrest] at ih
    have hpayload : (rest.take length).length = 256 * high.toNat + low.toNat := by
      rw [List.length_take, Nat.min_eq_left hle]
    rw [List.flatMap_cons, frame_eq _ _ _ _ _ hpayload, List.append_assoc, ih]
    simp only [List.cons_append, List.take_append_drop]
  | case2 component operation channel high low rest length hlt => rfl
  | case3 bytes hshort => rfl

/-- No frame is the beginning of another one. -/
theorem frame_append_eq {m m' : Message} {rest : Bytes} (hm : m.payload.length ≤ maxPayload)
    (hm' : m'.payload.length ≤ maxPayload) (h : m'.frame ++ rest = m.frame) : m' = m ∧ rest = [] := by
  have hparse := parse_frame hm' rest
  have hrest := flatten_parse rest
  rw [h, parse_single hm] at hparse
  simp only [Prod.mk.injEq, List.cons.injEq] at hparse
  rw [← hparse.1.2, ← hparse.2] at hrest
  exact ⟨hparse.1.1.symm, hrest.symm⟩

theorem frame_ne_nil (m : Message) : m.frame ≠ [] := by
  intro h
  have hlength := length_frame m
  rw [h] at hlength
  simp only [List.length_nil, Header.size] at hlength
  omega

/-! ## Frames above a limit -/

/-- The complete frames whose payload has at most `capacity` bytes. -/
def fitting (capacity : Nat) (bytes : Bytes) : List Message :=
  (parse bytes).1.filter fun m => m.payload.length ≤ capacity

/-- The payload lengths above `capacity` that are declared by complete headers, the header of the frame
that is not complete included. -/
def excess (capacity : Nat) (bytes : Bytes) : List Nat :=
  ((parse bytes).1.map (·.payload.length) ++ (declared? (parse bytes).2).toList).filter (capacity < ·)

theorem fitting_append (capacity : Nat) (bytes more : Bytes) :
    fitting capacity (bytes ++ more) = fitting capacity bytes ++ fitting capacity ((parse bytes).2 ++ more) := by
  simp only [fitting, parse_append bytes more, List.filter_append]

theorem fitting_unfinished (capacity : Nat) {bytes : Bytes} (h : Unfinished bytes) : fitting capacity bytes = [] := by
  simp only [fitting, parse_unfinished h, List.filter_nil]

theorem excess_unfinished (capacity : Nat) {bytes : Bytes} (h : Unfinished bytes) :
    excess capacity bytes = (declared? bytes).toList.filter (capacity < ·) := by
  simp only [excess, parse_unfinished h, List.map_nil, List.nil_append]

theorem excess_append (capacity : Nat) (bytes more : Bytes) :
    excess capacity (bytes ++ more) =
      ((parse bytes).1.map (·.payload.length)).filter (capacity < ·) ++ excess capacity ((parse bytes).2 ++ more) := by
  simp only [excess, parse_append bytes more, List.map_append, List.filter_append, List.append_assoc]

/-- What bytes add to the lengths above the limit depends on the unfinished frame only. -/
theorem excess_grows {capacity : Nat} {bytes more : Bytes} {late : List Nat}
    (h : excess capacity ((parse bytes).2 ++ more) = excess capacity (parse bytes).2 ++ late) :
    excess capacity (bytes ++ more) = excess capacity bytes ++ late := by
  have hbytes := excess_append capacity bytes []
  rw [List.append_nil, List.append_nil] at hbytes
  rw [excess_append, h, hbytes, List.append_assoc]

theorem fitting_frame {capacity : Nat} {m : Message} (h : m.payload.length ≤ maxPayload) :
    fitting capacity m.frame = if m.payload.length ≤ capacity then [m] else [] := by
  simp only [fitting, parse_single h, List.filter_cons, List.filter_nil, decide_eq_true_eq]

theorem excess_frame {capacity : Nat} {m : Message} (h : m.payload.length ≤ maxPayload) :
    excess capacity m.frame = if capacity < m.payload.length then [m.payload.length] else [] := by
  simp only [excess, parse_single h, declared?, List.map_cons, List.map_nil, Option.toList_none, List.append_nil,
    List.filter_cons, List.filter_nil, decide_eq_true_eq]

theorem fitting_frames {capacity : Nat} {messages : List Message} (h : ∀ m ∈ messages, m.payload.length ≤ maxPayload) :
    fitting capacity (messages.flatMap Message.frame) = messages.filter (·.payload.length ≤ capacity) := by
  rw [fitting, parse_frames h]

theorem length_excess_frames {capacity : Nat} {messages : List Message}
    (h : ∀ m ∈ messages, m.payload.length ≤ maxPayload) :
    (excess capacity (messages.flatMap Message.frame)).length = messages.countP (capacity < ·.payload.length) := by
  have hnone : declared? [] = none := rfl
  rw [excess, parse_frames h, hnone, Option.toList_none, List.append_nil, ← List.countP_eq_length_filter,
    List.countP_map]
  rfl

end Framing

end BusBridge

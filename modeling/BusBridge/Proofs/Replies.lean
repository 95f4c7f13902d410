import BusBridge.Proofs.Codecs
import BusBridge.Proofs.Drafts
import BusBridge.Service.Router
/-!
# How a reply reads

A service writes the bytes of its reply, a host reads a status and an answer out of them. `Answered` ties
the two together: what a service left of a request of a command reads, on the other side, as the answer
that was expected of it or as the status of its failure. A service that ran out of room left nothing that
could be read, and then `Status.unknownError` was expected.

A reply starts as a blank block and comes about in one of two ways. It is written as a whole, status
first (`Reply.Blank.finish_ok`, `Reply.Blank.finish_failed`), or it starts with the status of success, data
is put into the space behind it and counted afterwards (`Reply.settle_ok`), and if that fails the reply starts
again (`Reply.settle_failed`). The router replaces what cannot be read (`Router.reply_answered`).
-/

namespace BusBridge

instance (c : Command) : Decodes c.Answer :=
  match c with
  | .protocolVersion | .firmwareVersion => inferInstanceAs (Decodes Info.Version)
  | .hardwareInfo => inferInstanceAs (Decodes Info.Hardware)
  | .supportedComponents => inferInstanceAs (Decodes Info.Components)
  | .i2cWrite => inferInstanceAs (Decodes I2c.Written)
  | .i2cRead => inferInstanceAs (Decodes I2c.Data)
  | .spiChannels => inferInstanceAs (Decodes Spi.Channels)
  | .spiRead | .spiTransfer => inferInstanceAs (Decodes Raw)
  | .delay | .i2cConfig | .spiConfig | .spiWrite | .other _ _ => inferInstanceAs (Decodes Unit)

theorem splitStatus_wire (s : Status) (body : Bytes) : splitStatus (wire s ++ body) = .ok (s, body) := by
  rw [splitStatus, Scan.unpack_wire]
  rfl

theorem length_status (s : Status) (body : List Bytes) :
    (wire s :: body).flatten.length = body.flatten.length + 1 := by
  rw [List.flatten_cons, List.length_append, length_wire]
  exact Nat.add_comm 1 _

namespace Command

/-- A layout after the status of success is read back. -/
theorem readAnswer_ok (c : Command) (a : c.Answer) : c.readAnswer (wire Status.ok ++ Payload.layout a) = .ok a := by
  rw [readAnswer, splitStatus_wire]
  simp only [Decodes.decode_layout]
  rfl

/-- The status of a failure is reported, whatever follows it. -/
theorem readAnswer_status (c : Command) {s : Status} (hs : s ≠ .ok) (body : Bytes) :
    c.readAnswer (wire s ++ body) = .error (.status s) := by
  rw [readAnswer, splitStatus_wire]
  cases s with
  | ok => exact absurd rfl hs
  | unknownError | invalidArguments | slaveNotConnected => rfl

end Command

/-- What a service left of a request, in a block of the given size, reads as expected. -/
inductive Answered (c : Command) (size : Nat) (expected : Except Status c.Answer) :
    Except CapacityError Outcome × Reply → Prop where
  | replied {r : Reply} : r.operation = responseTo c.operation → r.draft.block.length = size →
      c.readAnswer r.written = expected.mapError .status → Answered c size expected (.ok .replied, r)
  /-- the reply does not fit in the block -/
  | full {r : Reply} : r.draft.block.length = size → expected = .error .unknownError →
      Answered c size expected (.error {}, r)

/-- A status reports an access, which was worth `a` if it went well. -/
inductive Worth {α : Type} (a : α) : Status → Except Status α → Prop where
  | ok : Worth a .ok (.ok a)
  | failed {s : Status} : s ≠ .ok → Worth a s (.error s)

/-- The `count` bytes of a block from `offset` on, if the block has them. -/
def Bytes.slice? (block : Bytes) (offset count : Nat) : Option Bytes :=
  if count + offset ≤ block.length then some (Bytes.slice block offset count) else none

theorem Bytes.slice?_eq_some {block slice : Bytes} {offset count : Nat} (h : block.slice? offset count = some slice) :
    count + offset ≤ block.length ∧ slice.length = count := by
  by_cases hfit : count + offset ≤ block.length
  · rw [slice?, if_pos hfit] at h
    cases h
    exact ⟨hfit, by rw [length_slice]; omega⟩
  · rw [slice?, if_neg hfit] at h
    cases h

namespace Reply

/-- Nothing is written yet of the response to a command. -/
structure Blank (r : Reply) (c : Command) (size : Nat) : Prop where
  operation : r.operation = responseTo c.operation
  length : r.draft.length = 0
  size : r.draft.block.length = size

variable {r : Reply} {c : Command} {size : Nat}

theorem blank_start (c : Command) (block : Bytes) : (start c.operation block).Blank c block.length :=
  ⟨rfl, rfl, rfl⟩

/-- A reply that starts again is blank. -/
theorem blank_clear (hoperation : r.operation = responseTo c.operation) (hsize : r.draft.block.length = size) :
    r.clear.Blank c size :=
  ⟨hoperation, rfl, hsize⟩

namespace Blank

theorem space (h : r.Blank c size) : r.draft.space = size := by
  rw [Draft.space, h.length, h.size, Nat.sub_zero]

/-- Pieces that fit are what is written. -/
theorem put (h : r.Blank c size) {pieces : List Bytes} (hfit : pieces.flatten.length ≤ size) :
    ∃ r', r.put pieces = (.ok (), r') ∧ r'.operation = responseTo c.operation ∧ r'.draft.block.length = size ∧
      r'.written = pieces.flatten ∧ r'.draft.remaining = r.draft.block.drop pieces.flatten.length := by
  have hnone : r.draft.written = [] := by rw [Draft.written, h.length, List.take_zero]
  have hall : r.draft.remaining = r.draft.block := by rw [Draft.remaining, h.length, List.drop_zero]
  obtain ⟨draft, hput, hwritten, hremaining⟩ := Draft.putAll_fits (h.space.symm ▸ hfit)
  rw [hnone, List.nil_append] at hwritten
  rw [hall] at hremaining
  refine ⟨{ r with draft }, ?_, h.operation, ?_, hwritten, hremaining⟩
  · rw [Reply.put, hput]
  · rw [Draft.length_block, hwritten, hremaining, List.length_drop, h.size]
    omega

/-- Pieces that do not fit are refused. -/
theorem put_full (h : r.Blank c size) {pieces : List Bytes} (hfull : size < pieces.flatten.length) :
    ∃ r', r.put pieces = (.error {}, r') ∧ r'.draft.block.length = size := by
  obtain ⟨draft, hput, hblock⟩ := Draft.putAll_full (h.space.symm ▸ hfull)
  exact ⟨{ r with draft }, by rw [Reply.put, hput], hblock.trans h.size⟩

/-- An answer that is written as a whole is read back, if there is room for it. -/
theorem finish_ok (h : r.Blank c size) (a : c.Answer) {body : List Bytes} (hbody : body.flatten = Payload.layout a)
    {length : Nat} (hlength : (Payload.layout a).length = length) :
    Answered c size (if length < size then .ok a else .error .unknownError) (r.finish .ok body) := by
  have hwhole := length_status .ok body
  rw [hbody, hlength] at hwhole
  by_cases hfit : length < size
  · obtain ⟨r', hput, hoperation, hblock, hwritten, _⟩ :=
      h.put (show (wire Status.ok :: body).flatten.length ≤ size by omega)
    rw [if_pos hfit, finish, hput]
    apply Answered.replied hoperation hblock
    rw [hwritten, List.flatten_cons, hbody, c.readAnswer_ok]
    rfl
  · obtain ⟨r', hput, hblock⟩ := h.put_full (show size < (wire Status.ok :: body).flatten.length by omega)
    rw [if_neg hfit, finish, hput]
    exact Answered.full hblock rfl

theorem finish_fits (h : r.Blank c size) (a : c.Answer) {body : List Bytes} (hbody : body.flatten = Payload.layout a)
    (hfit : (Payload.layout a).length < size) : Answered c size (.ok a) (r.finish .ok body) := by
  have hfinish := h.finish_ok a hbody rfl
  rwa [if_pos hfit] at hfinish

/-- A failure is reported whatever follows it, if there is room. -/
theorem finish_failed (h : r.Blank c size) {s : Status} (hs : s ≠ .ok) {body : List Bytes}
    (hfit : body.flatten.length < size) : Answered c size (.error s) (r.finish s body) := by
  have hlength := length_status s body
  obtain ⟨r', hput, hoperation, hblock, hwritten, _⟩ := h.put (show (wire s :: body).flatten.length ≤ size by omega)
  rw [finish, hput]
  apply Answered.replied hoperation hblock
  rw [hwritten, List.flatten_cons, c.readAnswer_status hs]
  rfl

/-- A reply that is written after an access reads as what the access was worth. -/
theorem finish_worth (h : r.Blank c size) {s : Status} {a : c.Answer} {expected : Except Status c.Answer}
    (hworth : Worth a s expected) {body : List Bytes} (hbody : body.flatten = Payload.layout a)
    (hfit : (Payload.layout a).length < size) : Answered c size expected (r.finish s body) := by
  cases hworth with
  | ok => exact h.finish_fits a hbody hfit
  | failed hs => exact h.finish_failed hs (hbody ▸ hfit)

end Blank

/-! ### Data in place -/

/-- The space for `count` bytes behind what is written, if there is enough of it. -/
def room? (r : Reply) (count : Nat) : Option Bytes :=
  if count ≤ r.draft.space then some (r.draft.remaining.take count) else none

/-- The space behind the start of a reply is a part of the block. -/
theorem room?_eq {block : Bytes} {offset : Nat} (hremaining : r.draft.remaining = block.drop offset)
    (hoffset : offset ≤ block.length) (count : Nat) : r.room? count = block.slice? offset count := by
  have hspace : r.draft.space = block.length - offset := by rw [← Draft.length_remaining, hremaining, List.length_drop]
  have hiff : count ≤ block.length - offset ↔ count + offset ≤ block.length := by omega
  simp only [room?, hspace, hiff, hremaining]
  rfl

/-- End a reply whose data was put in place: count the data if all went well, otherwise start again and
report the status and what follows it. -/
def settle (r : Reply) (count : Nat) (status : Status) (data : Bytes) (rest : List Bytes) :
    Except CapacityError Outcome × Reply :=
  let r := { r with draft := r.draft.fill data }
  if status = .ok then
    match r.draft.advance count with
    | .ok draft => (.ok .replied, { r with draft })
    | .error e => (.error e, r)
  else
    r.clear.finish status rest

/-- Data that was put in place is the end of the reply. -/
theorem settle_ok {count : Nat} {data : Bytes} {rest : List Bytes} {a : c.Answer}
    (hoperation : r.operation = responseTo c.operation) (hsize : r.draft.block.length = size)
    (hcount : data.length = count) (hfit : count + r.written.length ≤ size)
    (hreads : r.written ++ data = wire Status.ok ++ Payload.layout a) :
    Answered c size (.ok a) (r.settle count .ok data rest) := by
  subst hcount
  have hlength : r.written.length = r.draft.length := r.draft.length_written
  have hspace := r.draft.space_add_length
  obtain ⟨draft, hput, hwritten, hremaining⟩ := Draft.put_eq (show data.length ≤ r.draft.space by omega)
  have hblock : draft.block.length = size := by
    rw [draft.length_block, hwritten, hremaining, List.length_append, List.length_drop, Draft.length_remaining,
      Draft.length_written]
    omega
  simp only [settle, if_true, Draft.advance_fill (show data.length ≤ r.draft.space by omega), hput]
  refine .replied hoperation hblock ?_
  have hwhole : (⟨r.operation, draft⟩ : Reply).written = r.written ++ data := hwritten
  rw [hwhole, hreads, c.readAnswer_ok]
  rfl

/-- After a failure the data that was put in place is forgotten. -/
theorem settle_failed {count : Nat} {status : Status} {data : Bytes} {rest : List Bytes}
    (hoperation : r.operation = responseTo c.operation) (hsize : r.draft.block.length = size) (hstatus : status ≠ .ok)
    (hfit : rest.flatten.length < size) : Answered c size (.error status) (r.settle count status data rest) := by
  have hagain : (clear { r with draft := r.draft.fill data }).Blank c size :=
    blank_clear hoperation ((Bytes.length_overlay _ _ _).trans hsize)
  rw [settle, if_neg hstatus]
  exact hagain.finish_failed hstatus hfit

/-- A reply that is written in place reads as what the access was worth. -/
theorem settle_worth {count : Nat} {status : Status} {data : Bytes} {rest : List Bytes} {a : c.Answer}
    {expected : Except Status c.Answer} (hoperation : r.operation = responseTo c.operation)
    (hsize : r.draft.block.length = size) (hworth : Worth a status expected) (hcount : data.length = count)
    (hfit : count + r.written.length ≤ size) (hreads : r.written ++ data = wire Status.ok ++ Payload.layout a)
    (hrest : rest.flatten.length < size) : Answered c size expected (r.settle count status data rest) := by
  cases hworth with
  | ok => exact settle_ok hoperation hsize hcount hfit hreads
  | failed hstatus => exact settle_failed hoperation hsize hstatus hrest

end Reply

namespace Router

variable {κ : Type} [Service κ]

/-- The router's reply reads as expected, also if that of the service could not be read. -/
theorem reply_answered {service service' : κ} {request : Message} {block : Bytes} {c : Command}
    {expected : Except Status c.Answer} {left : Except CapacityError Outcome × Reply}
    (hoperation : request.operation = c.operation) (hroom : 0 < block.length)
    (hhandle : (Service.handle service request (.start request.operation block)).value = (left.1, left.2, service'))
    (h : Answered c block.length expected left) :
    ∃ r, (reply service request block).value = (.replied, r, service') ∧ r.operation = responseTo c.operation ∧
      r.draft.block.length = block.length ∧ c.readAnswer r.written = expected.mapError .status := by
  cases h with
  | @replied r hop hblock hreads =>
    refine ⟨r, ?_, hop, hblock, hreads⟩
    simp only [reply, Trace.value_bind, hhandle, Trace.value_pure]
  | @full r hblock hexpected =>
    have hblank : ({ r.clear with operation := responseTo request.operation } : Reply).Blank c block.length :=
      ⟨by rw [hoperation], rfl, hblock⟩
    obtain ⟨r', hput, hop, hblock', hwritten, _⟩ :=
      hblank.put (show [wire Status.unknownError].flatten.length ≤ _ from hroom)
    refine ⟨r', ?_, hop, hblock', ?_⟩
    · simp only [reply, Trace.value_bind, hhandle, Trace.value_pure, hput]
    · rw [hwritten, hexpected, List.flatten_cons, c.readAnswer_status (by decide)]
      rfl

end Router

end BusBridge

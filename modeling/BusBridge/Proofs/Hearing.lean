import BusBridge.Caller.ResponseSlot
import BusBridge.Proofs.Emission
import BusBridge.Proofs.Reception
/-!
# What a slot has heard

A handler that only listens (`ListensOnly`) is given the messages of the frames that fit, in the order of the
bytes, so what it has become is a fold over the frames read since some moment (`Heard`). The slot of a caller
is one. Two things follow for a slot that began to wait at that moment. Its response is the first of these
frames that it waited for (`Heard.firstMatch`). And the frame of the response lies behind the moment as a
whole, unless a frame was only partly read then and just that frame is the response
(`FirstMatch.starts_before_iff`).
-/

namespace BusBridge

open Framing

/-! ## Handlers that listen -/

/-- The handler only listens: a message changes nothing but the handler, and a sent frame nothing at all. -/
class ListensOnly (η : Type) [Handler η] where
  /-- the handler after a message -/
  hear : η → Message → η
  onMessage {n : Nat} {δ φ : Type} [Medium δ φ] (h : η) (m : Message) (l : Link n δ) :
    (Handler.onMessage h m l).result = .ok (hear h m, l)
  onSent {n : Nat} {δ φ : Type} [Medium δ φ] (h : η) (l : Link n δ) : (Handler.onSent h l).result = .ok (h, l)

theorem ListensOnly.returns {η : Type} [Handler η] [ListensOnly η] : HandlerReturns η :=
  fun _ h l => ⟨fun m => ⟨_, onMessage h m l⟩, ⟨_, onSent h l⟩⟩

/-- The report of a sent frame to a handler that listens only makes the link idle. -/
theorem Endpoint.blockSent_listens {n : Nat} {δ η φ : Type} [Medium δ φ] [Handler η] [ListensOnly η]
    {e e₁ : Endpoint n δ η} (h : e.blockSent.result = .ok e₁) : e₁ = { e with link.sending := none } := by
  unfold blockSent at h
  cases hsending : e.link.sending with
  | none =>
    simp only [hsending] at h
    cases h
    rcases e with ⟨⟨medium, buffer, sending, dump⟩, inbox, reception, handler, oversized⟩
    cases hsending
    rfl
  | some size =>
    simp only [hsending, Run.result_bind, Run.result_lift, Outcomes.ok_bind, ListensOnly.onSent] at h
    cases h
    rfl

/-- The report of a block to such a handler leaves the frame on the link alone. -/
theorem Endpoint.blockReceived_armed {n : Nat} {δ η φ : Type} [Medium δ φ] [Handler η] [ListensOnly η]
    {e e₁ : Endpoint n δ η} {report : Except Oversized Unit} (h : e.blockReceived.result = .ok (report, e₁)) :
    e₁.link.armed? = e.link.armed? := by
  obtain ⟨delivered, hhands⟩ := handsOver_of_blockReceived h
  cases hhands with
  | nothing _ hlink =>
    rw [hlink]
    rfl
  | message honMessage _ hlink =>
    rw [ListensOnly.onMessage] at honMessage
    cases honMessage
    rw [hlink]
    rfl

/-! ## A slot and its messages -/

namespace ResponseSlot

/-- The slot after a message. -/
def hear (s : ResponseSlot) (m : Message) : ResponseSlot :=
  (s.receive m).value

/-- The message is one that is waited for by its component and operation. -/
def awaited (component operation : UInt8) (m : Message) : Bool :=
  m.component = component ∧ m.operation = operation

theorem hear_awaited {component operation : UInt8} {response : Option Message} {ignored : Counter} {m : Message}
    (h : awaited component operation m = true) :
    hear ⟨some (component, operation), response, ignored⟩ m = ⟨none, some m, ignored⟩ := by
  simp only [hear, receive, if_pos (of_decide_eq_true h), Trace.value_pure]

theorem hear_other {component operation : UInt8} {response : Option Message} {ignored : Counter} {m : Message}
    (h : awaited component operation m = false) :
    hear ⟨some (component, operation), response, ignored⟩ m =
      ⟨some (component, operation), response, ignored.plus 1⟩ := by
  simp only [hear, receive, if_neg (of_decide_eq_false h)]
  rfl

/-- A slot that waits for nothing keeps its response. -/
theorem foldl_hear_none (response : Option Message) (ignored : Counter) (messages : List Message) :
    messages.foldl hear ⟨none, response, ignored⟩ = ⟨none, response, ignored.plus messages.length⟩ := by
  induction messages generalizing ignored with
  | nil => rw [List.length_nil, Counter.plus_zero, List.foldl_nil]
  | cons m rest ih =>
    show rest.foldl hear ⟨none, response, ignored.plus 1⟩ = _
    rw [ih, List.length_cons, Counter.plus_plus, Nat.add_comm 1]

/-- A slot that has not heard what it waits for waits on, and counts what it hears. -/
theorem foldl_hear_unanswered {component operation : UInt8} (ignored : Counter) {messages : List Message}
    (h : messages.find? (awaited component operation) = none) :
    messages.foldl hear ⟨some (component, operation), none, ignored⟩ =
      ⟨some (component, operation), none, ignored.plus messages.length⟩ := by
  induction messages generalizing ignored with
  | nil => rw [List.length_nil, Counter.plus_zero, List.foldl_nil]
  | cons m rest ih =>
    cases hm : awaited component operation m with
    | true =>
      rw [List.find?_cons_of_pos hm] at h
      cases h
    | false =>
      rw [List.find?_cons_of_neg (by rw [hm]; decide)] at h
      rw [List.foldl_cons, hear_other hm, ih _ h, List.length_cons, Counter.plus_plus, Nat.add_comm 1]

/-- A slot keeps the first message that it waited for, waits for nothing more, and counts every other message. -/
theorem foldl_hear_answered {component operation : UInt8} (ignored : Counter) {messages : List Message} {m : Message}
    (h : messages.find? (awaited component operation) = some m) :
    ∃ others, messages.foldl hear ⟨some (component, operation), none, ignored⟩ = ⟨none, some m, ignored.plus others⟩ ∧
      messages.length = others + 1 := by
  induction messages generalizing ignored with
  | nil => cases h
  | cons x rest ih =>
    rw [List.foldl_cons, List.length_cons]
    cases hx : awaited component operation x with
    | true =>
      rw [List.find?_cons_of_pos hx] at h
      cases h
      exact ⟨rest.length, by rw [hear_awaited hx, foldl_hear_none], rfl⟩
    | false =>
      rw [List.find?_cons_of_neg (by rw [hx]; decide)] at h
      obtain ⟨others, hslot, hcount⟩ := ih (ignored.plus 1) h
      refine ⟨others + 1, ?_, congrArg (· + 1) hcount⟩
      rw [hear_other hx, hslot, Counter.plus_plus, Nat.add_comm 1]

/-- The response is the first message that was waited for. -/
theorem foldl_hear_response (component operation : UInt8) (ignored : Counter) (messages : List Message) :
    (messages.foldl hear ⟨some (component, operation), none, ignored⟩).response =
      messages.find? (awaited component operation) := by
  cases hfind : messages.find? (awaited component operation) with
  | none => rw [foldl_hear_unanswered ignored hfind]
  | some m =>
    obtain ⟨others, hslot, _⟩ := foldl_hear_answered ignored hfind
    rw [hslot]

/-- Every message but the response is counted as ignored. -/
theorem foldl_hear_ignored {component operation : UInt8} {ignored : Counter} {messages : List Message} {m : Message}
    (h : (messages.foldl hear ⟨some (component, operation), none, ignored⟩).response = some m) :
    ∃ others, messages.length = others + 1 ∧
      (messages.foldl hear ⟨some (component, operation), none, ignored⟩).ignored = ignored.plus others := by
  rw [foldl_hear_response] at h
  obtain ⟨others, hslot, hcount⟩ := foldl_hear_answered ignored h
  exact ⟨others, hcount, by rw [hslot]⟩

instance : ListensOnly ResponseSlot where
  hear := hear
  onMessage _ _ _ := rfl
  onSent _ _ := rfl

end ResponseSlot

/-! ## A handler and the bytes -/

/-- Between two moments at which `taken` and `taken'` had been read, a handler was given the messages of the
frames completed in between. -/
def Heard {η : Type} [Handler η] [ListensOnly η] (capacity : Nat) (taken taken' : Bytes) (handler handler' : η) :
    Prop :=
  ∃ fresh, taken' = taken ++ fresh ∧
    handler' = (fitting capacity ((parse taken).2 ++ fresh)).foldl ListensOnly.hear handler

namespace Heard

variable {η : Type} [Handler η] [ListensOnly η] {capacity : Nat} {taken taken₁ taken₂ : Bytes}
    {handler handler₁ handler₂ : η}

theorem refl : Heard capacity taken taken handler handler := by
  refine ⟨[], (List.append_nil taken).symm, ?_⟩
  rw [List.append_nil, fitting_unfinished _ (unfinished_parse taken)]
  rfl

theorem trans (h₁ : Heard capacity taken taken₁ handler handler₁)
    (h₂ : Heard capacity taken₁ taken₂ handler₁ handler₂) :
    Heard capacity taken taken₂ handler handler₂ := by
  obtain ⟨fresh₁, rfl, rfl⟩ := h₁
  obtain ⟨fresh₂, rfl, rfl⟩ := h₂
  refine ⟨fresh₁ ++ fresh₂, List.append_assoc .., ?_⟩
  have hframes := fitting_append capacity ((parse taken).2 ++ fresh₁) fresh₂
  rw [List.append_assoc] at hframes
  rw [hframes, List.foldl_append, parse_append taken fresh₁]

/-- What the handler was given are the frames that fit and that were completed in between. -/
theorem messages (h : Heard capacity taken taken₁ handler handler₁) : ∃ messages,
    fitting capacity taken₁ = fitting capacity taken ++ messages ∧
      handler₁ = messages.foldl ListensOnly.hear handler := by
  obtain ⟨fresh, rfl, rfl⟩ := h
  exact ⟨_, fitting_append capacity taken fresh, rfl⟩

theorem slot {slot slot₁ : ResponseSlot} (h : Heard capacity taken taken₁ slot slot₁) : ∃ fresh,
    taken₁ = taken ++ fresh ∧ slot₁ = (fitting capacity ((parse taken).2 ++ fresh)).foldl ResponseSlot.hear slot :=
  h

/-- A slot that waits for nothing ignores every frame that fits. -/
theorem ignores {slot : ResponseSlot} {response : Option Message} {ignored : Counter}
    (h : Heard capacity taken taken₁ ⟨none, response, ignored⟩ slot) :
    ∃ count, (fitting capacity taken₁).length = (fitting capacity taken).length + count ∧
      slot = ⟨none, response, ignored.plus count⟩ := by
  obtain ⟨fresh, rfl, rfl⟩ := h.slot
  refine ⟨(fitting capacity ((parse taken).2 ++ fresh)).length, ?_, ResponseSlot.foldl_hear_none _ _ _⟩
  rw [fitting_append capacity taken, List.length_append]

/-- A slot that got its response ignored every other frame that fits. -/
theorem ignores_others {slot : ResponseSlot} {component operation : UInt8} {ignored : Counter} {m : Message}
    (h : Heard capacity taken taken₁ ⟨some (component, operation), none, ignored⟩ slot)
    (hresponse : slot.response = some m) :
    ∃ others, (fitting capacity taken₁).length = (fitting capacity taken).length + (others + 1) ∧
      slot.ignored = ignored.plus others := by
  obtain ⟨fresh, rfl, rfl⟩ := h.slot
  obtain ⟨others, hcount, hignored⟩ := ResponseSlot.foldl_hear_ignored hresponse
  refine ⟨others, ?_, hignored⟩
  rw [fitting_append capacity taken, List.length_append, hcount]

end Heard

/-! ## The first frame that is waited for -/

/-- After `early` had been read, and until `taken` had been, the frames `skipped` were completed and then
that of `m`, and `m` is the first of them that fits and that is waited for. -/
structure FirstMatch (capacity : Nat) (early taken : Bytes) (component operation : UInt8) (skipped : List Message)
    (m : Message) : Prop where
  reads : ∃ fresh, taken = early ++ fresh
  completes : ∃ later, (parse taken).1 = (parse early).1 ++ skipped ++ m :: later
  skips : ∀ x ∈ skipped, ¬(x.payload.length ≤ capacity ∧ x.component = component ∧ x.operation = operation)
  fits : m.payload.length ≤ capacity
  component : m.component = component
  operation : m.operation = operation

theorem Heard.firstMatch {capacity : Nat} {early taken : Bytes} {component operation : UInt8} {ignored : Counter}
    {slot : ResponseSlot} {m : Message}
    (h : Heard capacity early taken ⟨some (component, operation), none, ignored⟩ slot)
    (hresponse : slot.response = some m) :
    ∃ skipped, FirstMatch capacity early taken component operation skipped m := by
  obtain ⟨fresh, rfl, rfl⟩ := h.slot
  rw [ResponseSlot.foldl_hear_response, fitting, List.find?_filter] at hresponse
  obtain ⟨hm, skipped, later, hframes, hskipped⟩ := List.find?_eq_some_iff_append.mp hresponse
  simp only [ResponseSlot.awaited, decide_eq_true_eq, Bool.not_eq_true', decide_eq_false_iff_not] at hm hskipped
  refine ⟨skipped, ⟨fresh, rfl⟩, ⟨later, ?_⟩, hskipped, hm.1, hm.2.1, hm.2.2⟩
  rw [parse_append, hframes, List.append_assoc]

/-- A frame that completes an unfinished one is longer than it. -/
theorem Framing.unfinished_lt_frame {bytes fresh : Bytes} (hopen : Unfinished bytes) {m : Message} {rest : List Message}
    (h : (parse (bytes ++ fresh)).1 = m :: rest) : bytes.length < m.frame.length := by
  have hmax : m.payload.length ≤ maxPayload := parse_max _ m (h ▸ List.mem_cons_self)
  have hbytes := flatten_parse (bytes ++ fresh)
  rw [h, List.flatMap_cons, List.append_assoc] at hbytes
  refine Nat.lt_of_not_le fun hle => ?_
  -- otherwise the frame is a part of the unfinished bytes
  have hpart : m.frame ++ bytes.drop m.frame.length = bytes := by
    have htake : bytes.take m.frame.length = m.frame := by
      have hfront := congrArg (List.take m.frame.length) hbytes
      rwa [List.take_left, List.take_append_of_le_length hle, eq_comm] at hfront
    rw [← htake, List.length_take, Nat.min_eq_left hle, List.take_append_drop]
  have hparse := parse_frame hmax (bytes.drop m.frame.length)
  rw [hpart, parse_unfinished hopen] at hparse
  cases hparse

/-- Where a frame starts that follows others in a byte string. -/
def Framing.start (frames : List Message) : Nat :=
  (frames.flatMap Message.frame).length

/-- The response starts before the moment exactly if a frame was only partly read then, and none was
skipped. -/
theorem FirstMatch.starts_before_iff {capacity : Nat} {early taken : Bytes} {component operation : UInt8}
    {skipped : List Message} {m : Message} (h : FirstMatch capacity early taken component operation skipped m) :
    start ((parse early).1 ++ skipped) < early.length ↔ (parse early).2 ≠ [] ∧ skipped = [] := by
  obtain ⟨fresh, hreads⟩ := h.reads
  obtain ⟨later, hcompletes⟩ := h.completes
  have hearly : start (parse early).1 + (parse early).2.length = early.length := by
    rw [start, ← List.length_append, flatten_parse]
  have hstart : start ((parse early).1 ++ skipped) = start (parse early).1 + start skipped := by
    rw [start, List.flatMap_append, List.length_append]
    rfl
  rw [hstart]
  cases skipped with
  | nil =>
    have hnone : start [] = 0 := rfl
    have hpos := @List.length_pos_iff _ (parse early).2
    constructor
    · intro hlt
      exact ⟨hpos.mp (by omega), rfl⟩
    · rintro ⟨hpart, _⟩
      have := hpos.mpr hpart
      omega
  | cons x rest =>
    have hparse : (parse ((parse early).2 ++ fresh)).1 = x :: (rest ++ m :: later) := by
      rw [hreads, parse_append, List.append_assoc] at hcompletes
      exact List.append_cancel_left hcompletes
    have hlong := unfinished_lt_frame (unfinished_parse early) hparse
    have hskips : start (x :: rest) = x.frame.length + start rest := by
      rw [start, List.flatMap_cons, List.length_append]
      rfl
    constructor
    · intro hlt
      omega
    · rintro ⟨_, hskipped⟩
      cases hskipped

/-! ## An endpoint that hears -/

namespace Endpoint

variable {n : Nat} {δ η : Type} [Handler η] [ListensOnly η] {e e' : Endpoint n δ η} {taken new : Bytes}

/-- Bytes that do not complete the armed block tell the handler nothing. -/
theorem hears_wait {received : Nat} (h : e.Holds received (parse taken).2) (ha : e.Arrives e' received new)
    (hlt : received + new.length < e.armedSize) (hhandler : e'.handler = e.handler) :
    e'.Holds (received + new.length) (parse (taken ++ new)).2 ∧
      Heard e.capacity taken (taken ++ new) e.handler e'.handler := by
  have hholds := h.arrive ha hlt
  have hopen := hholds.unfinished
  refine ⟨?_, new, rfl, ?_⟩
  · rw [parse_append, parse_unfinished hopen]
    exact hholds
  · rw [fitting_unfinished _ hopen, hhandler]
    rfl

/-- A block that is reported tells the handler the message whose frame it ends, if that fits. -/
theorem hears_report {φ : Type} [Medium δ φ] {result : Except Oversized Unit}
    (h : e.Reports (parse taken).2 ((parse taken).2 ++ new) result e') :
    e'.Holds 0 (parse (taken ++ new)).2 ∧ Heard e.capacity taken (taken ++ new) e.handler e'.handler ∧
      ∃ size, e'.link = { e.link with medium := Medium.armReceive e.link.medium size } := by
  obtain ⟨delivered, late, hadvances⟩ := h.advance
  have hheard : e'.handler = delivered.foldl ListensOnly.hear e.handler →
      Heard e.capacity taken (taken ++ new) e.handler e'.handler := by
    intro hhandler
    exact ⟨new, rfl, by rw [hadvances.fitting, hhandler]⟩
  cases hadvances.handsOver with
  | nothing hhandler hlink => exact ⟨hadvances.holds, hheard hhandler, _, hlink⟩
  | message honMessage hhandler hlink =>
    rw [ListensOnly.onMessage] at honMessage
    cases honMessage
    exact ⟨hadvances.holds, hheard hhandler, _, hlink⟩

end Endpoint

end BusBridge

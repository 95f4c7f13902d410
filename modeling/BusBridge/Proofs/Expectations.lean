import BusBridge.Proofs.Hearing
import Mathlib.Data.List.Induction
/-!
# Expectations and their responses

What a slot holds is a matter of its history, the operations on it since it was made. It waits for a response if that
was expected and nothing has ended the waiting since (`SlotOp.Waits`). It keeps a message that came when it was waited
for, as long as nothing but messages comes after it (`SlotOp.Keeps`). Both have the shape "since some moment"
(`SlotOp.Since`), so one operation more changes them by a law that the slot obeys as well
(`ResponseSlot.expected_apply`, `ResponseSlot.response_apply`).

Seen forwards, each expectation has a window, up to the next one or to a reset, and its answer is the first message in
it that is waited for (`SlotOp.answers`). These answers are the messages that a slot accepts; it counts all the others.
-/

namespace BusBridge

/-- What can be done with a slot. -/
inductive SlotOp where
  | expect (component operation : UInt8)
  | reset
  | take
  /-- a message arrives -/
  | message (m : Message)
deriving DecidableEq, Repr

/-! ## Histories -/

namespace SlotOp

/-- The message that arrives, if one does. -/
def message? : SlotOp → Option Message
  | message m => some m
  | _ => none

/-- The messages that arrived. -/
def received (history : List SlotOp) : List Message :=
  history.filterMap message?

/-- The operation does not end the waiting for a response. -/
def Spares (component operation : UInt8) : SlotOp → Prop
  | expect _ _ | reset => False
  | take => True
  | message m => ResponseSlot.awaited component operation m = false

/-- At some moment `start` held of the history and the operation that came next, and `stays` held of every operation
after it. -/
def Since (start : List SlotOp → SlotOp → Prop) (stays : SlotOp → Prop) (history : List SlotOp) : Prop :=
  ∃ past op later, history = past ++ op :: later ∧ start past op ∧ ∀ other ∈ later, stays other

/-- A response was expected, and nothing has ended the waiting for it. -/
def Waits (component operation : UInt8) : List SlotOp → Prop :=
  Since (fun _ op => op = expect component operation) (Spares component operation)

/-- The message came when it was waited for, and since then only other messages came. -/
def Keeps (m : Message) : List SlotOp → Prop :=
  Since (fun past op => op = message m ∧ Waits m.component m.operation past) fun op => op.message?.isSome

/-- The first message that is waited for, before the next expectation and before a reset. -/
def answer? (component operation : UInt8) : List SlotOp → Option Message
  | message m :: rest => if ResponseSlot.awaited component operation m then some m else answer? component operation rest
  | take :: rest => answer? component operation rest
  | expect _ _ :: _ | reset :: _ | [] => none

/-- What each expectation led to, in order. -/
def answers : List SlotOp → List (Option Message)
  | expect component operation :: rest => answer? component operation rest :: answers rest
  | _ :: rest => answers rest
  | [] => []

section Since

variable {start : List SlotOp → SlotOp → Prop} {stays : SlotOp → Prop} {history : List SlotOp} {op : SlotOp}

theorem not_since_nil : ¬Since start stays [] := by
  rintro ⟨past, op, later, hhistory, _⟩
  exact List.append_ne_nil_of_right_ne_nil past (List.cons_ne_nil op later) hhistory.symm

/-- The moment is now, or it was before and this operation changes nothing about it. -/
theorem since_append_singleton :
    Since start stays (history ++ [op]) ↔ start history op ∨ Since start stays history ∧ stays op := by
  constructor
  · rintro ⟨past, first, later, hhistory, hstart, hstays⟩
    induction later using List.reverseRecOn with
    | nil =>
      obtain ⟨rfl, rfl⟩ := List.append_singleton_inj.mp hhistory
      exact .inl hstart
    | append_singleton later last =>
      rw [← List.cons_append, ← List.append_assoc] at hhistory
      obtain ⟨rfl, rfl⟩ := List.append_singleton_inj.mp hhistory
      obtain ⟨hlater, hlast⟩ := List.forall_mem_append.mp hstays
      exact .inr ⟨⟨past, first, later, rfl, hstart, hlater⟩, hlast op List.mem_cons_self⟩
  · rintro (hstart | ⟨⟨past, first, later, rfl, hstart, hlater⟩, hop⟩)
    · exact ⟨history, op, [], rfl, hstart, List.forall_mem_nil _⟩
    · refine ⟨past, first, later ++ [op], List.append_assoc .., hstart, List.forall_mem_append.mpr ⟨hlater, ?_⟩⟩
      exact List.forall_mem_singleton.mpr hop

end Since

end SlotOp

/-! ## A slot and its operations -/

namespace ResponseSlot

open SlotOp

def apply (s : ResponseSlot) : SlotOp → ResponseSlot
  | .expect component operation => s.expect component operation
  | .reset => s.reset
  | .take => s.take.2
  | .message m => s.hear m

/-- The operations one after the other. -/
def run (s : ResponseSlot) (ops : List SlotOp) : ResponseSlot :=
  ops.foldl apply s

/-- The message ends the waiting of the slot. -/
def accepts (s : ResponseSlot) (m : Message) : Bool :=
  s.isPending && !(s.hear m).isPending

/-- The messages that are accepted in the course of some operations, in order. -/
def accepted (s : ResponseSlot) : List SlotOp → List Message
  | [] => []
  | .message m :: rest => if s.accepts m then m :: (s.hear m).accepted rest else (s.hear m).accepted rest
  | op :: rest => (s.apply op).accepted rest

/-- The slot does not wait for a response while it has one. -/
def Single (s : ResponseSlot) : Prop :=
  s.expected = none ∨ s.response = none

variable {s : ResponseSlot}

theorem awaited_iff {awaits : UInt8 × UInt8} (h : s.expected = some awaits) (m : Message) :
    awaited awaits.1 awaits.2 m = true ↔ s.expected = some (m.component, m.operation) := by
  rw [h, awaited, decide_eq_true_eq, Option.some.injEq, Prod.ext_iff, eq_comm, @eq_comm _ m.operation]

/-- A message is accepted if it is waited for. Otherwise it is counted, and changes nothing else. -/
theorem hear_cases (s : ResponseSlot) (m : Message) :
    (s.expected = some (m.component, m.operation) ∧ s.accepts m = true ∧ s.hear m = ⟨none, some m, s.ignored⟩) ∨
      (s.expected ≠ some (m.component, m.operation) ∧ s.accepts m = false ∧ s.hear m = s.ignore) := by
  obtain ⟨expected, response, ignored⟩ := s
  cases expected with
  | none => exact .inr ⟨(Option.some_ne_none _).symm, rfl, rfl⟩
  | some awaits =>
    have hiff := awaited_iff (s := ⟨some awaits, response, ignored⟩) rfl m
    cases hm : awaited awaits.1 awaits.2 m with
    | true =>
      refine .inl ⟨hiff.mp hm, ?_, hear_awaited hm⟩
      rw [accepts, hear_awaited hm]
      rfl
    | false =>
      refine .inr ⟨mt hiff.mpr (Bool.not_eq_true _ ▸ hm), ?_, hear_other hm⟩
      rw [accepts, hear_other hm]
      rfl

theorem Single.apply (h : s.Single) (op : SlotOp) : (s.apply op).Single := by
  cases op with
  | expect | reset | take => exact .inr rfl
  | message m =>
    obtain ⟨_, _, hhear⟩ | ⟨_, _, hhear⟩ := s.hear_cases m
    · exact .inl (congrArg expected hhear)
    · rw [ResponseSlot.apply, hhear]
      exact h

/-- A slot waits for a response after an operation that expects it, or if it waited before and the operation spares
that. -/
theorem expected_apply (s : ResponseSlot) (op : SlotOp) (component operation : UInt8) :
    (s.apply op).expected = some (component, operation) ↔
      op = .expect component operation ∨ s.expected = some (component, operation) ∧ op.Spares component operation := by
  cases op with
  | expect => simp [apply, expect, Spares]
  | reset => simp [apply, reset, Spares]
  | take => simp [apply, take, Spares]
  | message m =>
    obtain ⟨hexpected, _, hhear⟩ | ⟨hexpected, _, hhear⟩ := s.hear_cases m
    · have hspares : s.expected = some (component, operation) → ¬awaited component operation m = false := by
        intro h
        rw [Bool.not_eq_false, awaited_iff h]
        exact hexpected
      simpa [apply, hhear, Spares] using hspares
    · have hspares : s.expected = some (component, operation) → awaited component operation m = false := by
        intro h
        rw [← Bool.not_eq_true, awaited_iff h]
        exact hexpected
      simpa [apply, hhear, ignore, Spares] using hspares

/-- A slot has a response after the message that it waited for, or if it had it before and another message came. -/
theorem response_apply (h : s.Single) (op : SlotOp) (m : Message) :
    (s.apply op).response = some m ↔
      (op = .message m ∧ s.expected = some (m.component, m.operation)) ∨ s.response = some m ∧ op.message?.isSome := by
  cases op with
  | expect => simp [apply, expect, message?]
  | reset => simp [apply, reset, message?]
  | take => simp [apply, take, message?]
  | message x =>
    obtain ⟨hexpected, _, hhear⟩ | ⟨hexpected, _, hhear⟩ := s.hear_cases x
    · -- the slot waited for `x`, so there is no response that it could replace
      have hnone : s.response = none := h.resolve_left (by rw [hexpected]; exact Option.some_ne_none _)
      have hx : x = m → s.expected = some (m.component, m.operation) := by
        rintro rfl
        exact hexpected
      simpa [apply, hhear, hnone, message?] using hx
    · have hx : ¬(SlotOp.message x = .message m ∧ s.expected = some (m.component, m.operation)) := by
        rintro ⟨hop, hm⟩
        cases hop
        exact hexpected hm
      simp only [apply, hhear, ignore, message?, Option.isSome_some, and_true, hx, false_or]

/-! ## A slot and its history -/

theorem run_append_singleton (s : ResponseSlot) (ops : List SlotOp) (op : SlotOp) :
    s.run (ops ++ [op]) = (s.run ops).apply op :=
  List.foldl_append

theorem single_run (history : List SlotOp) : (run {} history).Single := by
  induction history using List.reverseRecOn with
  | nil => exact .inl rfl
  | append_singleton history op ih =>
    rw [run_append_singleton]
    exact ih.apply op

theorem expected_run (history : List SlotOp) (component operation : UInt8) :
    (run {} history).expected = some (component, operation) ↔ Waits component operation history := by
  induction history using List.reverseRecOn with
  | nil => exact iff_of_false (Option.some_ne_none _).symm not_since_nil
  | append_singleton history op ih => rw [run_append_singleton, expected_apply, ih, Waits, since_append_singleton]

theorem response_run (history : List SlotOp) (m : Message) : (run {} history).response = some m ↔ Keeps m history := by
  induction history using List.reverseRecOn with
  | nil => exact iff_of_false (Option.some_ne_none _).symm not_since_nil
  | append_singleton history op ih =>
    rw [run_append_singleton, response_apply (single_run history), expected_run, ih, Keeps, since_append_singleton]

/-- A slot accepts the answer to what it waits for, and then that of each expectation to come. -/
theorem accepted_eq (s : ResponseSlot) (ops : List SlotOp) :
    s.accepted ops = (s.expected.bind fun awaits => answer? awaits.1 awaits.2 ops).toList ++
      (answers ops).flatMap Option.toList := by
  induction ops generalizing s with
  | nil => cases h : s.expected <;> rfl
  | cons op rest ih =>
    cases op with
    | expect component operation =>
      -- whatever was waited for before is given up
      show (s.expect component operation).accepted rest = _
      rw [ih]
      cases s.expected <;> rfl
    | reset =>
      show s.reset.accepted rest = _
      rw [ih]
      cases s.expected <;> rfl
    | take => exact ih s.take.2
    | message m =>
      obtain ⟨hexpected, haccepts, hhear⟩ | ⟨hexpected, haccepts, hhear⟩ := s.hear_cases m
      · have hanswer : answer? m.component m.operation (.message m :: rest) = some m :=
          if_pos ((awaited_iff hexpected m).mpr hexpected)
        rw [accepted, if_pos haccepts, ih, hhear, hexpected, Option.bind_some, hanswer]
        rfl
      · have hanswer : (s.expected.bind fun awaits => answer? awaits.1 awaits.2 (.message m :: rest)) =
            s.expected.bind fun awaits => answer? awaits.1 awaits.2 rest := by
          apply Option.bind_congr
          intro awaits h
          exact if_neg (mt (awaited_iff h m).mp hexpected)
        rw [accepted, if_neg (Bool.not_eq_true _ ▸ haccepts), ih, hhear, hanswer]
        rfl

/-- Every message that arrives is either counted or accepted. -/
theorem ignored_run (s : ResponseSlot) (ops : List SlotOp) : ∃ dropped,
    (received ops).length = dropped + (s.accepted ops).length ∧ (s.run ops).ignored = s.ignored.plus dropped := by
  induction ops generalizing s with
  | nil => exact ⟨0, rfl, (Counter.plus_zero _).symm⟩
  | cons op rest ih =>
    obtain ⟨dropped, hcount, hignored⟩ := ih (s.apply op)
    cases op with
    | expect | reset | take => exact ⟨dropped, hcount, hignored⟩
    | message m =>
      have hrun : s.run (.message m :: rest) = (s.hear m).run rest := rfl
      have hreceived : (received (.message m :: rest)).length = (received rest).length + 1 := rfl
      rw [apply] at hcount hignored
      rw [hrun, hreceived, hignored, hcount, accepted]
      obtain ⟨_, haccepts, hhear⟩ | ⟨_, haccepts, hhear⟩ := s.hear_cases m
      · refine ⟨dropped, ?_, ?_⟩
        · rw [if_pos haccepts, List.length_cons, Nat.add_assoc]
        · rw [hhear]
      · refine ⟨dropped + 1, ?_, ?_⟩
        · rw [if_neg (Bool.not_eq_true _ ▸ haccepts), Nat.add_right_comm]
        · rw [hhear, ignore, Counter.plus_plus, Nat.add_comm 1]

/-- A slot never waits for a response and has one at the same time, and its history settles which of them it does. It
accepts the answer of each expectation, at most one message, and keeps that until an operation that is no message. Every
other message is counted and changes nothing else. So the messages that arrived are those that were dropped and those
that were accepted, and the counter shows the number of the former as long as it can. -/
theorem one_response_per_expectation (history : List SlotOp) :
    let s := run {} history
    (s.expected = none ∨ s.response = none) ∧
      (∀ component operation, s.expected = some (component, operation) ↔ Waits component operation history) ∧
      (∀ m, s.response = some m ↔ Keeps m history) ∧
      accepted {} history = (answers history).flatMap Option.toList ∧
      (∀ m, (Waits m.component m.operation history ∧ s.accepts m = true ∧ s.hear m = ⟨none, some m, s.ignored⟩) ∨
        (¬Waits m.component m.operation history ∧ s.accepts m = false ∧
          s.hear m = { s with ignored := s.ignored.plus 1 })) ∧
      (s.expected = none → ∀ messages : List Message,
        s.run (messages.map .message) = ⟨none, s.response, s.ignored.plus messages.length⟩) ∧
      ∃ dropped, (received history).length = dropped + (accepted {} history).length ∧ s.ignored = .of dropped ∧
        ((received history).length = s.ignored.value + (accepted {} history).length ↔ dropped ≤ Counter.largest) := by
  intro s
  refine ⟨single_run history, expected_run history, response_run history, accepted_eq {} history, ?_, ?_, ?_⟩
  · intro m
    rw [← expected_run]
    exact s.hear_cases m
  · intro hidle messages
    rw [run, List.foldl_map]
    have hslot : s = ⟨none, s.response, s.ignored⟩ := by rw [← hidle]
    rw [hslot]
    exact foldl_hear_none s.response s.ignored messages
  · obtain ⟨dropped, hcount, hignored⟩ := ignored_run {} history
    have hshown : s.ignored = .of dropped := hignored.trans (Counter.zero_plus dropped)
    refine ⟨dropped, hcount, hshown, ?_⟩
    rw [hcount, hshown, Nat.add_right_cancel_iff, eq_comm, Counter.value_of_eq_iff]

/-- Three expectations: the first is answered between messages of other kinds and of its own, the second is given up,
and the third is answered. -/
def threeExpectations : List SlotOp :=
  [.expect 7 0x81, .message ⟨7, 0x82, 0, []⟩, .take, .message ⟨7, 0x81, 0, [1]⟩, .message ⟨7, 0x81, 0, [2]⟩, .take,
    .message ⟨7, 0x81, 0, [3]⟩,
    .expect 7 0x81, .reset, .message ⟨7, 0x81, 0, [4]⟩,
    .expect 3 0x80, .message ⟨3, 0x80, 1, [5]⟩, .message ⟨3, 0x80, 1, [6]⟩]

theorem one_response_per_expectation_three :
    let s := run {} threeExpectations
    Keeps ⟨3, 0x80, 1, [5]⟩ threeExpectations ∧
      accepted {} threeExpectations = [⟨7, 0x81, 0, [1]⟩, ⟨3, 0x80, 1, [5]⟩] ∧
      s.expected = none ∧
      s.run [.message ⟨3, 0x80, 1, [7]⟩, .message ⟨7, 0x81, 0, [8]⟩] = ⟨none, some ⟨3, 0x80, 1, [5]⟩, 7⟩ ∧
      (received threeExpectations).length = s.ignored.value + 2 := by
  intro s
  obtain ⟨_, _, hkeeps, haccepted, _, hidle, _⟩ := one_response_per_expectation threeExpectations
  have hslot : s = ⟨none, some ⟨3, 0x80, 1, [5]⟩, 5⟩ := by decide
  have hwaits : s.expected = none := congrArg expected hslot
  exact ⟨(hkeeps _).mp (congrArg response hslot), haccepted, hwaits,
    hidle hwaits [⟨3, 0x80, 1, [7]⟩, ⟨7, 0x81, 0, [8]⟩], by rw [hslot]; decide⟩

end ResponseSlot

end BusBridge

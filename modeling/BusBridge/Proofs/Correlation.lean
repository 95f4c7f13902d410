import BusBridge.Bench.Script
import BusBridge.Proofs.Erasure
import BusBridge.Proofs.Failures
import BusBridge.Proofs.Lifetime
import BusBridge.Proofs.Watching
/-!
# Calls and the messages that answer them

While a caller settles and waits, messages are delivered to its slot: any number of them, in either phase and several in
one poll. `Correlates` says what a call makes of them. Those that came before its frame was started are dropped. Of
those that came after it, the call returns the first one that the slot waited for, if it returns one at all, and each of
the others is counted. However it ends, nothing is expected and nothing is kept, so the next call begins from the same
state. A call whose deadline cannot be told is not made, and so is none of those that follow it.

To speak of what was delivered, and of frames that were started, a caller is observed: its slot keeps the messages
(`Recorded`), and its medium the sizes of the frames that it was told to send (`Ledger`). Observing makes no difference
(`Caller.unwatched`).
-/

namespace BusBridge

variable {n : Nat} {δ : Type}

/-! ## A medium that keeps account -/

/-- A medium that keeps the sizes of the frames that it was told to send. -/
structure Ledger (δ : Type) where
  medium : δ
  started : List Nat

instance {φ : Type} [Medium δ φ] : Medium (Ledger δ) φ where
  armReceive l size := ⟨Medium.armReceive l.medium size, l.started⟩
  armSend l size := ⟨Medium.armSend l.medium size, l.started ++ [size]⟩
  cancelSend l := (fun medium => ⟨medium, l.started⟩) <$> Medium.cancelSend l.medium
  pollReceive l block :=
    let (result, block, medium) := Medium.pollReceive l.medium block
    (result, block, ⟨medium, l.started⟩)
  pollSend l frame := (fun (result, medium) => (result, ⟨medium, l.started⟩)) <$> Medium.pollSend l.medium frame

namespace Caller

/-- A caller under observation. -/
abbrev Observed (n : Nat) (δ : Type) := Caller n (Ledger δ) (Recorded ResponseSlot)

variable {φ : Type} [Medium δ φ]

/-- The messages that were delivered so far. -/
def heard (c : Observed n δ) : List Message :=
  c.endpoint.handler.messages

/-- The sizes of the frames that were started so far. -/
def started (c : Observed n δ) : List Nat :=
  c.endpoint.link.medium.started

/-! ## What is delivered while the endpoint is polled -/

variable {rounds : Nat}

variable [CallFailure φ] {c c' : Observed n δ} {d : Demand}

/-- The message answers the call, by its component and operation. -/
def Demand.answeredBy (d : Demand) (m : Message) : Bool :=
  ResponseSlot.awaited d.ask.message.component (responseTo d.ask.message.operation) m

/-- The frame of the call is put on the link when the given messages have been delivered, and no other frame is. -/
structure Launches (rounds : Nat) (c : Observed n δ) (d : Demand) (early : List Message) (begun : Observed n δ) :
    Prop where
  begin : ∃ count, (d.begin rounds c).result = .ok (.ok count, begun)
  heard : begun.heard = c.heard ++ early
  started : begun.started = c.started ++ [d.ask.message.frame.length]
  armed : begun.endpoint.link.armed? = some d.ask.message.frame

/-- What a call did with the messages that were delivered during it: `early` before its frame was started, `since` from
then on. -/
structure Correlates (rounds : Nat) (c : Observed n δ) (d : Demand) (result : Except CallError Message)
    (c' : Observed n δ) (early since : List Message) : Prop where
  delivered : c'.heard = c.heard ++ early ++ since
  /-- its frame was started in between, and no other one; or none was, and the call failed -/
  frame : (∃ begun, Launches rounds c d early begun ∧ c'.started = begun.started) ∨
    (since = [] ∧ c'.started = c.started ∧ ∃ error, result = .error error)
  /-- a message that it returns is the first one since then that answers it -/
  response : ∀ m, result = .ok m → since.find? d.answeredBy = some m
  /-- every message but the first one that answers it was counted, as far as a counter goes -/
  counted : ∃ others, early.length + since.length = others + (since.find? d.answeredBy).toList.length ∧
    c'.slot.ignored = c.slot.ignored.plus others
  /-- a request that does not fit starts no frame; but a failure of the medium may be the same error to a call -/
  refused : result = .error .capacity → c'.started = c.started ∨ d.Fails rounds c .capacity
  /-- nothing is expected, and no response is kept -/
  idle : c'.slot.expected = none ∧ c'.slot.response = none

/-- Each call correlates, and what was delivered during all of them was delivered during one after the other. -/
inductive Correlated (rounds : Nat) : Observed n δ → List Demand → List (Except CallError Message) → Observed n δ →
    List Message → Prop where
  | nil {c : Observed n δ} : Correlated rounds c [] [] c []
  | cons {c c₁ c' : Observed n δ} {d : Demand} {rest : List Demand} {result : Except CallError Message}
      {results : List (Except CallError Message)} {early since later : List Message} :
      Correlates rounds c d result c₁ early since → Correlated rounds c₁ rest results c' later →
      Correlated rounds c (d :: rest) (result :: results) c' (early ++ since ++ later)

theorem Correlated.heard {demands : List Demand} {results : List (Except CallError Message)} {delivered : List Message}
    (h : Correlated rounds c demands results c' delivered) : c'.heard = c.heard ++ delivered := by
  induction h with
  | nil => exact (List.append_nil _).symm
  | cons hcorrelates _ ih =>
    rw [ih, hcorrelates.delivered]
    simp only [List.append_assoc]

end Caller

end BusBridge

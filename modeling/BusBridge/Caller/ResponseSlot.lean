import BusBridge.Journal.Counter
import BusBridge.Line.Endpoint
/-!
# The slot for an expected response

A slot expects at most one response, known by its component and operation, and keeps the first
message that matches. From then on it expects nothing. Every other message is counted and dropped.
-/

namespace BusBridge

structure ResponseSlot where
  /-- component and operation of the response waited for -/
  expected : Option (UInt8 × UInt8) := none
  response : Option Message := none
  /-- messages dropped so far -/
  ignored : Counter := 0
deriving DecidableEq, Repr

namespace ResponseSlot

/-- Wait for a response, and forget the one before. -/
def expect (s : ResponseSlot) (component operation : UInt8) : ResponseSlot :=
  { s with expected := some (component, operation), response := none }

/-- A response is waited for. -/
def isPending (s : ResponseSlot) : Bool :=
  s.expected.isSome

/-- Stop waiting: a late response will be dropped. -/
def reset (s : ResponseSlot) : ResponseSlot :=
  { s with expected := none, response := none }

/-- Take the response out of the slot. -/
def take (s : ResponseSlot) : Option Message × ResponseSlot :=
  (s.response, { s with response := none })

def ignore (s : ResponseSlot) : ResponseSlot :=
  { s with ignored := s.ignored.plus 1 }

def receive (s : ResponseSlot) (m : Message) : Trace ResponseSlot := do
  match s.expected with
  | some (component, operation) =>
    if m.component = component ∧ m.operation = operation then
      pure { s with expected := none, response := some m }
    else
      note (.mismatched m.header)
      pure s.ignore
  | none =>
    note (.unexpected m.header)
    pure s.ignore

instance : Handler ResponseSlot where
  onMessage s m link := do
    let s ← s.receive m
    pure (s, link)

end ResponseSlot

/-- A handler that keeps a slot for the response to a call. -/
class KeepsSlot (η : Type) where
  slot : η → ResponseSlot
  setSlot : η → ResponseSlot → η
  slot_setSlot : ∀ h s, slot (setSlot h s) = s
  setSlot_slot : ∀ h, setSlot h (slot h) = h
  setSlot_setSlot : ∀ h s t, setSlot (setSlot h s) t = setSlot h t

instance : KeepsSlot ResponseSlot where
  slot s := s
  setSlot _ s := s
  slot_setSlot _ _ := rfl
  setSlot_slot _ := rfl
  setSlot_setSlot _ _ _ := rfl

end BusBridge

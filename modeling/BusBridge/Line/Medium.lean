import BusBridge.Journal.Trace
/-!
# Media

The medium under an endpoint transfers whole blocks. It is told which block is armed in each
direction, and polled for progress; arming forgets the progress of the block before. It answers a
poll with `true` once the armed block is complete, with `false` if there is nothing to do now, or
with its failure. What a failure is depends on the medium; for byte streams it is an `IoKind`.

`Detached` is the medium that never makes progress: whoever owns it transfers the blocks and reports
their completion to the endpoint.
-/

namespace BusBridge

/-- How a transfer failed. -/
inductive IoKind where
  | wouldBlock
  | timedOut
  | interrupted
  | brokenPipe
  | connectionReset
  | permissionDenied
  | unexpectedEof
  | invalidData
  | notConnected
  | writeZero
  | other
deriving DecidableEq, Repr

namespace IoKind

/-- Nothing can be transferred now, but later it may. -/
def isIdle : IoKind → Bool
  | wouldBlock | timedOut | interrupted => true
  | _ => false

def name : IoKind → String
  | wouldBlock => "WouldBlock"
  | timedOut => "TimedOut"
  | interrupted => "Interrupted"
  | brokenPipe => "BrokenPipe"
  | connectionReset => "ConnectionReset"
  | permissionDenied => "PermissionDenied"
  | unexpectedEof => "UnexpectedEof"
  | invalidData => "InvalidData"
  | notConnected => "NotConnected"
  | writeZero => "WriteZero"
  | other => "Other"

end IoKind

/-- Failures of a kind of media, with their texts. -/
class Failure (φ : Type) where
  text : φ → String

instance : Failure IoKind where
  text kind := s!"Kind({kind.name})"

class Medium (δ : Type) (φ : outParam Type) where
  /-- a block of so many bytes is to be received -/
  armReceive : δ → Nat → δ
  /-- a block of so many bytes is to be sent -/
  armSend : δ → Nat → δ
  /-- the armed emission is given up -/
  cancelSend : δ → Trace δ
  /-- progress on the armed reception, given the block and answering with its new content -/
  pollReceive : δ → Bytes → Except φ Bool × Bytes × δ
  /-- progress on the armed emission -/
  pollSend : δ → Bytes → Trace (Except φ Bool × δ)

namespace Medium

variable {δ φ : Type} [Medium δ φ]

/-- Arm a block for reception, for all to see. -/
def beginReceive (m : δ) (size : Nat) : Trace δ := do
  emit (.armReceive size)
  pure (armReceive m size)

/-- Arm a block for emission, for all to see. -/
def beginSend (m : δ) (size : Nat) : Trace δ := do
  emit (.armSend size)
  pure (armSend m size)

/-- Give up the armed emission, for all to see. -/
def giveUpSend (m : δ) : Trace δ := do
  emit .cancelSend
  cancelSend m

end Medium

/-- The medium that never makes progress by itself. -/
structure Detached where
deriving DecidableEq, Repr

instance : Medium Detached IoKind where
  armReceive d _ := d
  armSend d _ := d
  cancelSend d := pure d
  pollReceive d block := (.ok false, block, d)
  pollSend d _ := pure (.ok false, d)

/-- One medium or another that fails in the same ways, chosen at construction. -/
instance {δ ε φ : Type} [Medium δ φ] [Medium ε φ] : Medium (δ ⊕ ε) φ where
  armReceive
    | .inl d, size => .inl (Medium.armReceive d size)
    | .inr d, size => .inr (Medium.armReceive d size)
  armSend
    | .inl d, size => .inl (Medium.armSend d size)
    | .inr d, size => .inr (Medium.armSend d size)
  cancelSend
    | .inl d => .inl <$> Medium.cancelSend d
    | .inr d => .inr <$> Medium.cancelSend d
  pollReceive
    | .inl d, block =>
      let (result, block, d) := Medium.pollReceive d block
      (result, block, .inl d)
    | .inr d, block =>
      let (result, block, d) := Medium.pollReceive d block
      (result, block, .inr d)
  pollSend
    | .inl d, block => (fun (r, d) => (r, .inl d)) <$> Medium.pollSend d block
    | .inr d, block => (fun (r, d) => (r, .inr d)) <$> Medium.pollSend d block

end BusBridge

import BusBridge.Line.Medium
/-!
# Byte streams as media

A stream hands over the bytes that are there and takes the bytes that it has room for, both at its
own pace. `StreamMedium` makes a medium of it: it remembers how much of each armed block is done and
goes on from there at the next poll. A reader or writer that has nothing to do now is no failure; an
end of the input is one, and so is a write that accepts nothing.

`Tap` stands between a stream and its user and records what passed, in order.
-/

namespace BusBridge

class Stream (σ : Type) where
  /-- at most so many bytes, none of them at the end of the input -/
  read : σ → Nat → Except IoKind Bytes × σ
  /-- the number of bytes accepted from the front -/
  write : σ → Bytes → Except IoKind Nat × σ
  /-- hand the bytes accepted so far to the other side -/
  flush : σ → Trace (Except IoKind Unit × σ)

/-- Why the transfer of a block stopped. -/
inductive Halt where
  | complete
  /-- the stream gave or took no byte -/
  | nothing
  | failed (kind : IoKind)
deriving DecidableEq, Repr

/-- What a stopped transfer means to a poll: a stream that has nothing to do now is no failure, one
that transfers no byte fails in the given way. -/
def Halt.toPoll (empty : IoKind) : Halt → Except IoKind Bool
  | complete => .ok true
  | nothing => .error empty
  | failed kind => if kind.isIdle then .ok false else .error kind

/-- How a flush ended. -/
def Halt.ofFlush : Except IoKind Unit → Halt
  | .ok _ => complete
  | .error kind => failed kind

namespace Stream

variable {σ : Type} [Stream σ]

/-- Read until `want` bytes are there, on top of `got` which is in reverse order. -/
def gather (want : Nat) (s : σ) (got : Bytes) : Halt × Bytes × σ :=
  if want = 0 then
    (.complete, got, s)
  else
    match read s want with
    | (.error kind, s) => (.failed kind, got, s)
    | (.ok bs, s) =>
      if (bs.take want).length = 0 then (.nothing, got, s)
      else gather (want - (bs.take want).length) s ((bs.take want).reverse ++ got)
termination_by want
decreasing_by omega

/-- Write until nothing of `rest` is left. The pieces that were accepted come on top of `given`, the
last one first. -/
def drain (rest : Bytes) (s : σ) (given : List Bytes) : Halt × List Bytes × σ :=
  if rest.isEmpty then
    (.complete, given, s)
  else
    match write s rest with
    | (.error kind, s) => (.failed kind, given, s)
    | (.ok count, s) =>
      if count = 0 then (.nothing, given, s)
      else drain (rest.drop count) s (rest.take count :: given)
termination_by rest.length
decreasing_by
  have : rest.length ≠ 0 := by simp_all
  simp only [List.length_drop]
  omega

end Stream

/-- A stream with the progress of the armed blocks. -/
structure StreamMedium (σ : Type) where
  stream : σ
  /-- bytes of the armed reception already there -/
  received : Nat := 0
  /-- bytes of the armed emission already accepted -/
  sent : Nat := 0

namespace StreamMedium

variable {σ : Type} [Stream σ]

def pollReceive (m : StreamMedium σ) (block : Bytes) : Except IoKind Bool × Bytes × StreamMedium σ :=
  let (halt, got, stream) := Stream.gather (block.length - m.received) m.stream []
  (halt.toPoll .unexpectedEof, Bytes.overlay block m.received got.reverse,
    { m with stream, received := m.received + got.length })

/-- The block is sent once all of it was accepted and a flush succeeded. -/
def pollSend (m : StreamMedium σ) (block : Bytes) : Trace (Except IoKind Bool × StreamMedium σ) := do
  let (halt, given, stream) := Stream.drain (block.drop m.sent) m.stream []
  let sent := m.sent + given.flatten.length
  match halt with
  | .complete =>
    let (result, stream) ← Stream.flush stream
    pure (Halt.toPoll .writeZero (.ofFlush result), { m with stream, sent })
  | halt => pure (halt.toPoll .writeZero, { m with stream, sent })

def cancelSend (m : StreamMedium σ) : Trace (StreamMedium σ) := do
  if m.sent ≠ 0 then note (.sendCut m.sent)
  pure { m with sent := 0 }

instance : Medium (StreamMedium σ) IoKind where
  armReceive m _ := { m with received := 0 }
  armSend m _ := { m with sent := 0 }
  cancelSend := cancelSend
  pollReceive := pollReceive
  pollSend := pollSend

end StreamMedium

/-- Something that passed between a stream and its user. -/
inductive Transfer where
  | taken (bytes : Bytes)
  | given (bytes : Bytes)
  | flushed
deriving DecidableEq, Repr

/-- A stream with a record of its transfers, the last one first. -/
structure Tap (σ : Type) where
  stream : σ
  log : List Transfer := []

namespace Tap

variable {σ : Type}

/-- The bytes that the stream accepted. -/
def given (t : Tap σ) : Bytes :=
  t.log.reverse.flatMap fun
    | .given bytes => bytes
    | _ => []

/-- The bytes that were read from the stream. -/
def taken (t : Tap σ) : Bytes :=
  t.log.reverse.flatMap fun
    | .taken bytes => bytes
    | _ => []

instance [Stream σ] : Stream (Tap σ) where
  read t want :=
    match Stream.read t.stream want with
    | (.ok bytes, stream) => (.ok (bytes.take want), ⟨stream, .taken (bytes.take want) :: t.log⟩)
    | (.error k, stream) => (.error k, ⟨stream, t.log⟩)
  write t bytes :=
    match Stream.write t.stream bytes with
    | (.ok count, stream) => (.ok count, ⟨stream, .given (bytes.take count) :: t.log⟩)
    | (.error k, stream) => (.error k, ⟨stream, t.log⟩)
  flush t := do
    match ← Stream.flush t.stream with
    | (.ok _, stream) => pure (.ok (), ⟨stream, .flushed :: t.log⟩)
    | (.error k, stream) => pure (.error k, ⟨stream, t.log⟩)

end Tap

end BusBridge

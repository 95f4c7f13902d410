import BusBridge.Bench.Script
import BusBridge.Caller.Timed
/-!
# Scripted streams in time

A stream whose answers become available at given moments, in the order of the list: an answer that is
not there yet holds back those after it. Only waiting takes time.
-/

namespace BusBridge.Bench

/-- Something that is available from a moment on. -/
structure Dated (α : Type) where
  moment : Nat
  item : α

structure Timetable where
  now : Nat := 0
  reads : List (Dated Supply) := []
  writes : List (Dated Room) := []
  flushes : List (Option IoKind) := []
  /-- input that becomes available some time after the next flushes -/
  onFlush : List (List (Dated Supply)) := []
  chunk : Nat := 1048576
  /-- accepted bytes that are not flushed yet, the last one first -/
  unflushed : Bytes := []
  /-- all accepted bytes, the last one first -/
  accepted : Bytes := []
  peer : Option Peer := none
  /-- time that the peer takes to answer -/
  peerDelay : Nat := 0

namespace Timetable

/-- Wait until a moment, or only until the deadline if that comes first: whether the moment came. -/
def wait (t : Timetable) (moment deadline : Nat) : Bool × Timetable :=
  if moment ≤ t.now then (true, t)
  else if moment ≤ deadline then (true, { t with now := moment })
  else (false, { t with now := max t.now deadline })

def readFrom (deadline want : Nat) : List (Dated Supply) → Timetable → Option (Except IoKind Bytes) × Timetable
  | [], t => (none, { t with reads := [], now := max t.now deadline })
  | ⟨moment, item⟩ :: rest, t =>
    match t.wait moment deadline with
    | (false, t) => (none, { t with reads := ⟨moment, item⟩ :: rest })
    | (true, t) =>
      match item with
      | .fail kind => (some (.error kind), { t with reads := rest })
      | .eof => (some (.ok []), { t with reads := rest })
      | .bytes bs =>
        if bs.isEmpty then
          readFrom deadline want rest t
        else
          let count := min want t.chunk
          (some (.ok (bs.take count)), { t with reads := ⟨moment, .bytes (bs.drop count)⟩ :: rest })

def take (t : Timetable) (bytes : Bytes) (count : Nat) : Option (Except IoKind Nat) × Timetable :=
  let bytes := bytes.take count
  (some (.ok bytes.length), { t with
    unflushed := bytes.reverse ++ t.unflushed
    accepted := bytes.reverse ++ t.accepted })

def write (t : Timetable) (deadline : Nat) (bytes : Bytes) : Option (Except IoKind Nat) × Timetable :=
  match t.writes with
  | [] => t.take bytes t.chunk
  | ⟨moment, room⟩ :: rest =>
    match t.wait moment deadline with
    | (false, t) => (none, t)
    | (true, t) =>
      let t := { t with writes := rest }
      match room with
      | .accept (some limit) => t.take bytes limit
      | .accept none => t.take bytes bytes.length
      | .fail kind => (some (.error kind), t)

def flush (t : Timetable) : Trace (Except IoKind Unit × Timetable) := do
  match t.flushes.head?.join with
  | some kind => pure (.error kind, { t with flushes := t.flushes.tail })
  | none =>
    let (answer, peer) ← Script.handOver t.peer t.unflushed.reverse
    if (Script.breach? peer).isSome then
      pure (.error .brokenPipe, { t with peer })
    else
      let answer := answer.map fun item => ⟨t.now + t.peerDelay, item⟩
      let next := (t.onFlush.head?.getD []).map fun d => { d with moment := t.now + d.moment }
      pure (.ok (), { t with
        flushes := t.flushes.tail
        unflushed := []
        peer
        reads := t.reads ++ answer ++ next
        onFlush := t.onFlush.tail })

instance : TimedStream Timetable where
  now := Timetable.now
  read t deadline want := readFrom deadline want t.reads t
  write := write
  flush t _ := do
    let (result, t) ← t.flush
    pure (some result, t)

/-- Take out the bytes accepted so far. -/
def collect (t : Timetable) : Bytes × Timetable :=
  (t.accepted.reverse, { t with accepted := [] })

/-- Let time pass. -/
def sleep (t : Timetable) (milliseconds : Nat) : Timetable :=
  { t with now := t.now + milliseconds }

end Timetable

end BusBridge.Bench

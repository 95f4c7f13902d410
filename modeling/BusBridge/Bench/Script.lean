import BusBridge.Bench.Peer
import BusBridge.Line.Stream
/-!
# Scripted streams

A stream whose every answer is laid down in advance. Each read and write consumes the front of its
list; a flush hands what was written to the peer and makes new input available. If the peer breaks a
rule of use the flush fails, and `breach?` tells why.
-/

namespace BusBridge.Bench

/-- What a read meets. -/
inductive Supply where
  | bytes (bs : Bytes)
  | fail (kind : IoKind)
  | eof

/-- What a write meets. -/
inductive Room where
  /-- at most so many bytes are accepted -/
  | accept (limit : Option Nat)
  | fail (kind : IoKind)

structure Script where
  reads : List Supply := []
  writes : List Room := []
  /-- how the next flushes end -/
  flushes : List (Option IoKind) := []
  /-- input that becomes available with the next flushes -/
  onFlush : List (List Supply) := []
  /-- most bytes of one read, and of one write that no script is left for -/
  chunk : Nat := 1048576
  /-- number of reads in a row, with no input left, at which the line counts as broken; without a
  limit no input left is the end -/
  idleLimit : Option Nat := some 20
  idle : Nat := 0
  /-- accepted bytes that are not flushed yet, the last one first -/
  unflushed : Bytes := []
  /-- all accepted bytes, the last one first -/
  accepted : Bytes := []
  peer : Option Peer := none

namespace Script

def read (s : Script) (want : Nat) : Except IoKind Bytes × Script :=
  let reads := s.reads.dropWhile fun
    | .bytes bs => bs.isEmpty
    | _ => false
  match reads with
  | .bytes bs :: rest =>
    let count := min want s.chunk
    (.ok (bs.take count), { s with reads := .bytes (bs.drop count) :: rest, idle := 0 })
  | .fail kind :: rest => (.error kind, { s with reads := rest })
  | .eof :: rest => (.ok [], { s with reads := rest })
  | [] =>
    let s := { s with reads := [], idle := s.idle + 1 }
    match s.idleLimit with
    | none => (.ok [], s)
    | some limit => (.error (if s.idle ≥ limit then .brokenPipe else .wouldBlock), s)

/-- Accept bytes from the front of a write. -/
def take (s : Script) (bytes : Bytes) (count : Nat) : Except IoKind Nat × Script :=
  let bytes := bytes.take count
  (.ok bytes.length, { s with unflushed := bytes.reverse ++ s.unflushed, accepted := bytes.reverse ++ s.accepted })

def write (s : Script) (bytes : Bytes) : Except IoKind Nat × Script :=
  match s.writes with
  | [] => s.take bytes s.chunk
  | .accept (some limit) :: rest => { s with writes := rest }.take bytes limit
  | .accept none :: rest => { s with writes := rest }.take bytes bytes.length
  | .fail kind :: rest => (.error kind, { s with writes := rest })

/-- What the peer answers to the bytes that were written. -/
def handOver (peer : Option Peer) (bytes : Bytes) : Trace (List Supply × Option Peer) := do
  match peer with
  | none => pure ([], none)
  | some p =>
    let (answer, p) ← p.exchange bytes
    pure ([.bytes answer], some p)

/-- The rule that the peer broke, which ends the work of both sides. -/
def breach? (peer : Option Peer) : Option Fault :=
  peer.bind (·.fault)

def flush (s : Script) : Trace (Except IoKind Unit × Script) := do
  match s.flushes.head?.join with
  | some kind => pure (.error kind, { s with flushes := s.flushes.tail })
  | none =>
    let (answer, peer) ← handOver s.peer s.unflushed.reverse
    if (breach? peer).isSome then
      pure (.error .brokenPipe, { s with peer })
    else
      pure (.ok (), { s with
        flushes := s.flushes.tail
        unflushed := []
        peer
        reads := s.reads ++ answer ++ s.onFlush.head?.getD []
        onFlush := s.onFlush.tail })

instance : Stream Script where
  read := read
  write := write
  flush := flush

/-- Take out the bytes accepted so far. -/
def collect (s : Script) : Bytes × Script :=
  (s.accepted.reverse, { s with accepted := [] })

/-- Append to the script. -/
def extend (s t : Script) : Script :=
  { s with
    reads := s.reads ++ t.reads
    writes := s.writes ++ t.writes
    flushes := s.flushes ++ t.flushes
    onFlush := s.onFlush ++ t.onFlush }

end Script

end BusBridge.Bench

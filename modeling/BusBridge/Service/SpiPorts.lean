import BusBridge.Service.Router
/-!
# SPI masters

The channel of a request selects the port. Reads and transfers happen in place, right after the
status byte; if one fails the reply starts again with the status of the failure.
-/

namespace BusBridge

/-- SPI ports, the port of each channel at its index. -/
structure SpiPorts (β : Type) where
  ports : List β

namespace SpiPorts

variable {β : Type}

/-- The port of a channel. -/
def port? (m : SpiPorts β) (channel : UInt8) : Option β :=
  m.ports[channel.toNat]?

def setPort (m : SpiPorts β) (channel : UInt8) (port : β) : SpiPorts β :=
  ⟨m.ports.set channel.toNat port⟩

/-- The advertised number of channels, as much of it as fits in a byte. -/
def count (m : SpiPorts β) : UInt8 :=
  UInt8.ofNat (min m.ports.length 255)

/-- The status that reports how an access ended. -/
def report : Except SpiFault Unit → Trace Status
  | .ok _ => pure .ok
  | .error fault => do
    note (.spiFailed fault)
    pure .unknownError

variable [SpiPort β]

def configure (m : SpiPorts β) (channel : UInt8) (payload : Bytes) : Trace (Status × SpiPorts β) := do
  match m.port? channel, (Payload.decode payload : Except DecodeError Spi.Config) with
  | some port, .ok config =>
    match config.settings? with
    | some settings =>
      note (.spiConfiguring channel settings)
      emit (.spi channel.toNat (.configure settings))
      let (result, port) := SpiPort.configure port settings
      pure (← report result, m.setPort channel port)
    | none => pure (.invalidArguments, m)
  | _, _ => pure (.invalidArguments, m)

def write (m : SpiPorts β) (channel : UInt8) (data : Bytes) : Trace (Status × SpiPorts β) := do
  match m.port? channel with
  | some port =>
    emit (.spi channel.toNat (.write data))
    let (result, port) := SpiPort.write port data
    pure (← report result, m.setPort channel port)
  | none => pure (.invalidArguments, m)

/-- Read into a slice, if there is one: the status, and what the slice holds afterwards. -/
def read (m : SpiPorts β) (channel : UInt8) (slice? : Option Bytes) : Trace (Status × Bytes × SpiPorts β) := do
  match m.port? channel, slice? with
  | some port, some slice =>
    emit (.spi channel.toNat (.read slice.length))
    let (result, data, port) := SpiPort.read port slice
    pure (← report result, Bytes.overlay slice 0 data, m.setPort channel port)
  | _, _ => pure (.invalidArguments, [], m)

/-- Exchange data in place, if there is room for it: the status, and what came in. -/
def transfer (m : SpiPorts β) (channel : UInt8) (data? : Option Bytes) :
    Trace (Status × Bytes × SpiPorts β) := do
  match m.port? channel, data? with
  | some port, some data =>
    emit (.spi channel.toNat (.transfer data))
    let (result, received, port) := SpiPort.transfer port data
    pure (← report result, Bytes.overlay data 0 received, m.setPort channel port)
  | _, _ => pure (.invalidArguments, [], m)

/-- Keep the data written in place if all went well, otherwise only report the status. -/
def conclude (reply : Reply) (status : Status) (data : Bytes) (size : Nat) : Except CapacityError Outcome × Reply :=
  let reply := { reply with draft := reply.draft.fill data }
  if status = .ok then
    match reply.draft.advance size with
    | .ok draft => (.ok .replied, { reply with draft })
    | .error e => (.error e, reply)
  else
    reply.clear.finish status []

/-- Reply with `size` bytes that an access puts in place; the access is given the space for them. -/
def replyInPlace (m : SpiPorts β) (size : Nat) (reply : Reply)
    (access : Option Bytes → Trace (Status × Bytes × SpiPorts β)) :
    Trace (Except CapacityError Outcome × Reply × SpiPorts β) := do
  match reply.put [wire Status.ok] with
  | (.error e, reply) => pure (.error e, reply, m)
  | (.ok _, reply) =>
    let slice? := if size ≤ reply.draft.space then some (reply.draft.remaining.take size) else none
    let (status, data, m) ← access slice?
    let (outcome, reply) := conclude reply status data size
    pure (outcome, reply, m)

def answer (m : SpiPorts β) (request : Message) (reply : Reply) :
    Trace (Except CapacityError Outcome × Reply × SpiPorts β) := do
  if request.operation = Command.spiChannels.operation then
    let (outcome, reply) := reply.finish .ok [wire m.count]
    pure (outcome, reply, m)
  else if request.operation = Command.spiConfig.operation then
    let (status, m) ← m.configure request.channel request.payload
    let (outcome, reply) := reply.finish status []
    pure (outcome, reply, m)
  else if request.operation = Command.spiRead.operation then
    match (Payload.decode request.payload : Except DecodeError Spi.Read) with
    | .ok arguments => m.replyInPlace arguments.count.toNat reply (m.read request.channel)
    | .error _ =>
      let (outcome, reply) := reply.finish .invalidArguments []
      pure (outcome, reply, m)
  else if request.operation = Command.spiWrite.operation then
    let (status, m) ← m.write request.channel request.payload
    let (outcome, reply) := reply.finish status []
    pure (outcome, reply, m)
  else if request.operation = Command.spiTransfer.operation then
    m.replyInPlace request.payload.length reply fun slice? =>
      m.transfer request.channel (slice?.map fun _ => request.payload)
  else
    pure (.ok .notImplemented, reply, m)

instance : Service (SpiPorts β) where
  handle := answer

end SpiPorts

end BusBridge

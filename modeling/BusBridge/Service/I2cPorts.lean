import BusBridge.Service.Router
/-!
# I2C masters

The channel of a request selects the port. A request reaches the hardware only if its arguments are
valid: the port exists, an address has seven bits, the clock is one of the known speeds, and the data
read fits in the reply. Data is read in place, right after the status and the address; if the read
fails the reply starts again with the status of the failure.
-/

namespace BusBridge

/-- I2C ports, the port of each channel at its index. -/
structure I2cPorts (β : Type) where
  ports : List β

namespace I2cPorts

variable {β : Type}

/-- The port of a channel. -/
def port? (m : I2cPorts β) (channel : UInt8) : Option β :=
  m.ports[channel.toNat]?

def setPort (m : I2cPorts β) (channel : UInt8) (port : β) : I2cPorts β :=
  ⟨m.ports.set channel.toNat port⟩

/-- An address as seven bits. -/
def sevenBits? (address : UInt16) : Option UInt8 :=
  if address ≤ 0x7f then some address.toUInt8 else none

/-- The status that reports how an access ended. -/
def report : Except I2cFault Unit → Trace Status
  | .ok _ => pure .ok
  | .error fault => do
    note (.i2cFailed fault)
    pure (if fault.isNack then .slaveNotConnected else .unknownError)

variable [I2cPort β]

def configure (m : I2cPorts β) (channel : UInt8) (payload : Bytes) : Trace (Status × I2cPorts β) := do
  match m.port? channel, (Payload.decode payload : Except DecodeError I2c.Config) with
  | some port, .ok config =>
    match config.clock.frequency? with
    | some frequency =>
      let (sda, scl) := (config.sdaPullup != 0, config.sclPullup != 0)
      note (.i2cConfiguring channel frequency)
      emit (.i2c channel.toNat (.configure frequency sda scl))
      let (result, port) := I2cPort.configure port frequency sda scl
      pure (← report result, m.setPort channel port)
    | none => pure (.invalidArguments, m)
  | _, _ => pure (.invalidArguments, m)

def write (m : I2cPorts β) (channel : UInt8) (request : I2c.Data) : Trace (Status × I2cPorts β) := do
  match m.port? channel, sevenBits? request.address with
  | some port, some address =>
    emit (.i2c channel.toNat (.write address request.data))
    let (result, port) := I2cPort.write port address request.data
    pure (← report result, m.setPort channel port)
  | _, _ => pure (.invalidArguments, m)

/-- Read into a slice, if there is one: the status, and what the slice holds afterwards. -/
def read (m : I2cPorts β) (channel : UInt8) (address : UInt16) (slice? : Option Bytes) :
    Trace (Status × Bytes × I2cPorts β) := do
  match m.port? channel, sevenBits? address, slice? with
  | some port, some address, some slice =>
    emit (.i2c channel.toNat (.read address slice.length))
    let (result, data, port) := I2cPort.read port address slice
    pure (← report result, Bytes.overlay slice 0 data, m.setPort channel port)
  | _, _, _ => pure (.invalidArguments, [], m)

/-- Reply to a read request, with the data in place. -/
def replyRead (m : I2cPorts β) (channel : UInt8) (request : I2c.Read) (reply : Reply) :
    Trace (Except CapacityError Outcome × Reply × I2cPorts β) := do
  match reply.put [wire Status.ok, wire request.address] with
  | (.error e, reply) => pure (.error e, reply, m)
  | (.ok _, reply) =>
    let size := request.count.toNat
    let slice? := if size ≤ reply.draft.space then some (reply.draft.remaining.take size) else none
    let (status, data, m) ← m.read channel request.address slice?
    let reply := { reply with draft := reply.draft.fill data }
    if status = .ok then
      match reply.draft.advance size with
      | .ok draft => pure (.ok .replied, { reply with draft }, m)
      | .error e => pure (.error e, reply, m)
    else
      let (outcome, reply) := reply.clear.finish status [wire request.address]
      pure (outcome, reply, m)

def answer (m : I2cPorts β) (request : Message) (reply : Reply) :
    Trace (Except CapacityError Outcome × Reply × I2cPorts β) := do
  if request.operation = Command.i2cConfig.operation then
    let (status, m) ← m.configure request.channel request.payload
    let (outcome, reply) := reply.finish status []
    pure (outcome, reply, m)
  else if request.operation = Command.i2cWrite.operation then
    match (Payload.decode request.payload : Except DecodeError I2c.Data) with
    | .ok arguments =>
      let (status, m) ← m.write request.channel arguments
      let (outcome, reply) := reply.finish status [wire arguments.address]
      pure (outcome, reply, m)
    | .error _ =>
      let (outcome, reply) := reply.finish .invalidArguments []
      pure (outcome, reply, m)
  else if request.operation = Command.i2cRead.operation then
    match (Payload.decode request.payload : Except DecodeError I2c.Read) with
    | .ok arguments => m.replyRead request.channel arguments reply
    | .error _ =>
      let (outcome, reply) := reply.finish .invalidArguments []
      pure (outcome, reply, m)
  else
    pure (.ok .notImplemented, reply, m)

instance : Service (I2cPorts β) where
  handle := answer

end I2cPorts

end BusBridge

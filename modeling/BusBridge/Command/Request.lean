import BusBridge.Command.Info
import BusBridge.Command.I2c
import BusBridge.Command.Spi
import BusBridge.Wire.Message
/-!
# Commands, requests and their answers

A `Command` is an operation of a component, a `Request` is a command with its arguments. The answer
of a command has its own type, `Command.Answer`; `Command.readAnswer` reads it from the payload of a
response, after the status byte. `Command.other` is an operation outside the known ones: its
arguments are bytes and its answer carries nothing.
-/

namespace BusBridge

inductive Command where
  | protocolVersion
  | hardwareInfo
  | firmwareVersion
  | supportedComponents
  | delay
  | i2cConfig
  | i2cWrite
  | i2cRead
  | spiChannels
  | spiConfig
  | spiRead
  | spiWrite
  | spiTransfer
  | other (component operation : UInt8)
deriving DecidableEq, Repr

namespace Command

/-- The byte of the component that executes a command. -/
def component : Command → UInt8
  | protocolVersion | hardwareInfo | firmwareVersion | supportedComponents | delay => ComponentId.bridge.toByte
  | i2cConfig | i2cWrite | i2cRead => ComponentId.i2cMaster.toByte
  | spiChannels | spiConfig | spiRead | spiWrite | spiTransfer => ComponentId.spiMaster.toByte
  | other component _ => component

/-- The operation byte of a command within its component. -/
def operation : Command → UInt8
  | protocolVersion => 0
  | hardwareInfo => 1
  | firmwareVersion => 2
  | supportedComponents => 3
  | delay => 4
  | i2cConfig => 0
  | i2cWrite => 1
  | i2cRead => 2
  | spiChannels => 0
  | spiConfig => 1
  | spiRead => 2
  | spiWrite => 3
  | spiTransfer => 4
  | other _ operation => operation

/-- What the body of a successful response holds. -/
@[reducible] def Answer : Command → Type
  | protocolVersion | firmwareVersion => Info.Version
  | hardwareInfo => Info.Hardware
  | supportedComponents => Info.Components
  | i2cWrite => I2c.Written
  | i2cRead => I2c.Data
  | spiChannels => Spi.Channels
  | spiRead | spiTransfer => Raw
  | delay | i2cConfig | spiConfig | spiWrite | other _ _ => Unit

instance (c : Command) : Payload c.Answer :=
  match c with
  | protocolVersion | firmwareVersion => inferInstanceAs (Payload Info.Version)
  | hardwareInfo => inferInstanceAs (Payload Info.Hardware)
  | supportedComponents => inferInstanceAs (Payload Info.Components)
  | i2cWrite => inferInstanceAs (Payload I2c.Written)
  | i2cRead => inferInstanceAs (Payload I2c.Data)
  | spiChannels => inferInstanceAs (Payload Spi.Channels)
  | spiRead | spiTransfer => inferInstanceAs (Payload Raw)
  | delay | i2cConfig | spiConfig | spiWrite | other _ _ => inferInstanceAs (Payload Unit)

end Command

inductive Request where
  | protocolVersion
  | hardwareInfo
  | firmwareVersion
  | supportedComponents
  | delay (arguments : Info.Delay)
  | i2cConfig (arguments : I2c.Config)
  | i2cWrite (arguments : I2c.Data)
  | i2cRead (arguments : I2c.Read)
  | spiChannels
  | spiConfig (arguments : Spi.Config)
  | spiRead (arguments : Spi.Read)
  | spiWrite (arguments : Raw)
  | spiTransfer (arguments : Raw)
  | other (component operation : UInt8) (arguments : Raw)
deriving DecidableEq, Repr

namespace Request

def command : Request → Command
  | protocolVersion => .protocolVersion
  | hardwareInfo => .hardwareInfo
  | firmwareVersion => .firmwareVersion
  | supportedComponents => .supportedComponents
  | delay _ => .delay
  | i2cConfig _ => .i2cConfig
  | i2cWrite _ => .i2cWrite
  | i2cRead _ => .i2cRead
  | spiChannels => .spiChannels
  | spiConfig _ => .spiConfig
  | spiRead _ => .spiRead
  | spiWrite _ => .spiWrite
  | spiTransfer _ => .spiTransfer
  | other component operation _ => .other component operation

/-- The pieces of the request's payload, in the order in which they are written. -/
def pieces : Request → List Bytes
  | protocolVersion | hardwareInfo | firmwareVersion | supportedComponents | spiChannels => Payload.pieces ()
  | delay a => Payload.pieces a
  | i2cConfig a => Payload.pieces a
  | i2cWrite a => Payload.pieces a
  | i2cRead a => Payload.pieces a
  | spiConfig a => Payload.pieces a
  | spiRead a => Payload.pieces a
  | spiWrite a | spiTransfer a | other _ _ a => Payload.pieces a

/-- The request's payload. -/
def layout (r : Request) : Bytes :=
  r.pieces.flatten

/-- The request as a message on a channel. -/
def message (r : Request) (channel : UInt8) : Message :=
  ⟨r.command.component, r.command.operation, channel, r.layout⟩

/-- Longest payload of a request that is kept until the line is free. -/
def maxDeferred : Nat := 64

/-- The request as a message that can be kept until the line is free. -/
def deferred (r : Request) (channel : UInt8) : Except CapacityError Message :=
  if r.layout.length ≤ maxDeferred then .ok (r.message channel) else .error {}

end Request

/-- Why a response is no answer. -/
inductive AnswerError where
  /-- the bridge reported a failure -/
  | status (s : Status)
  | malformed (e : DecodeError)
deriving DecidableEq, Repr

def AnswerError.message : AnswerError → String
  | status s => s!"problem detected on bridge side: {s.name}"
  | malformed e => s!"malformed response: {e.message}"

/-- Check the status of a response and read its body. -/
def Command.readAnswer (c : Command) (payload : Bytes) : Except AnswerError c.Answer :=
  match splitStatus payload with
  | .error e => .error (.malformed e)
  | .ok (.ok, body) => (Payload.decode body).mapError .malformed
  | .ok (s, _) => .error (.status s)

end BusBridge

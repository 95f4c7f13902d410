import BusBridge.Wire.Layout
/-!
# One-byte codes

The closed sets of values that stand for one byte on the wire. Every byte has a meaning: one that no
named value owns is read as the set's last resort, so writing a code that was read gives either the
same byte or that of the last resort.
-/

namespace BusBridge

/-- What a message is addressed to. -/
inductive ComponentId where
  /-- the bridge itself: versions, hardware description, delays -/
  | bridge
  | i2cMaster
  | spiMaster
  | unknown
deriving DecidableEq, Repr

namespace ComponentId

def toByte : ComponentId → UInt8
  | bridge => 0
  | i2cMaster => 1
  | spiMaster => 2
  | unknown => 0xff

def ofByte (b : UInt8) : ComponentId :=
  if b = 0 then bridge else if b = 1 then i2cMaster else if b = 2 then spiMaster else unknown

def name : ComponentId → String
  | bridge => "Bridge"
  | i2cMaster => "I2cMaster"
  | spiMaster => "SpiMaster"
  | unknown => "Unknown"

/-- Every identifier, in the order of its code. -/
def all : List ComponentId :=
  [bridge, i2cMaster, spiMaster, unknown]

end ComponentId

/-- How a request ended: the first byte of every response. -/
inductive Status where
  | ok
  /-- any other failure, and every status byte without a meaning of its own -/
  | unknownError
  /-- the arguments are not valid for the component or the channel -/
  | invalidArguments
  /-- the addressed I2C slave did not acknowledge -/
  | slaveNotConnected
deriving DecidableEq, Repr

namespace Status

def toByte : Status → UInt8
  | ok => 0
  | unknownError => 1
  | invalidArguments => 2
  | slaveNotConnected => 3

def ofByte (b : UInt8) : Status :=
  if b = 0 then ok else if b = 2 then invalidArguments else if b = 3 then slaveNotConnected else unknownError

def name : Status → String
  | ok => "Ok"
  | unknownError => "UnknownError"
  | invalidArguments => "InvalidArguments"
  | slaveNotConnected => "SlaveNotConnected"

instance : Inhabited Status := ⟨ok⟩

instance : Packed Status where
  size := 1
  bytes _ s := [s.toByte]
  read order bs := (Packed.read order bs).map fun (b, rest) => (ofByte b, rest)

end Status

/-- Clock of an I2C bus. -/
inductive ClockSpeed where
  | khz100
  | khz400
  /-- any value that no bridge can configure -/
  | unsupported
deriving DecidableEq, Repr

namespace ClockSpeed

def toByte : ClockSpeed → UInt8
  | khz100 => 1
  | khz400 => 2
  | unsupported => 0

def ofByte (b : UInt8) : ClockSpeed :=
  if b = 1 then khz100 else if b = 2 then khz400 else unsupported

def name : ClockSpeed → String
  | khz100 => "Khz100"
  | khz400 => "Khz400"
  | unsupported => "Unsupported"

/-- Bus frequency in hertz. -/
def frequency? : ClockSpeed → Option Nat
  | khz100 => some 100000
  | khz400 => some 400000
  | unsupported => none

instance : Packed ClockSpeed where
  size := 1
  bytes _ s := [s.toByte]
  read order bs := (Packed.read order bs).map fun (b, rest) => (ofByte b, rest)

end ClockSpeed

/-- Which bit of a word goes first over SPI. -/
inductive BitOrder where
  | msbFirst
  | lsbFirst
  | invalid
deriving DecidableEq, Repr

namespace BitOrder

def toByte : BitOrder → UInt8
  | msbFirst => 0
  | lsbFirst => 1
  | invalid => 0xff

def ofByte (b : UInt8) : BitOrder :=
  if b = 0 then msbFirst else if b = 1 then lsbFirst else invalid

def name : BitOrder → String
  | msbFirst => "MsbFirst"
  | lsbFirst => "LsbFirst"
  | invalid => "Invalid"

instance : Packed BitOrder where
  size := 1
  bytes _ o := [o.toByte]
  read order bs := (Packed.read order bs).map fun (b, rest) => (ofByte b, rest)

end BitOrder

end BusBridge

import BusBridge.Wire.Hex
/-!
# I2C ports

What an I2C master asks of its hardware. A port is a state with three accesses, each of which ends
with success or with a fault. A read is given the slice to fill and answers with what the slice holds
afterwards, so hardware that leaves bytes as they were is a port too.
-/

namespace BusBridge

/-- How an access to an I2C bus failed. -/
inductive I2cFault where
  | bus
  | arbitrationLoss
  | overrun
  | other
  /-- the slave did not acknowledge its address -/
  | nackAddress
  /-- the slave did not acknowledge a byte of data -/
  | nackData
  | nackUnknown
deriving DecidableEq, Repr

namespace I2cFault

/-- An acknowledge is missing. -/
def isNack : I2cFault → Bool
  | nackAddress | nackData | nackUnknown => true
  | bus | arbitrationLoss | overrun | other => false

def text : I2cFault → String
  | bus => "Bus"
  | arbitrationLoss => "ArbitrationLoss"
  | overrun => "Overrun"
  | other => "Other"
  | nackAddress => "NoAcknowledge(Address)"
  | nackData => "NoAcknowledge(Data)"
  | nackUnknown => "NoAcknowledge(Unknown)"

end I2cFault

/-- Hardware of one I2C port. -/
class I2cPort (β : Type) where
  configure : β → (frequency : Nat) → (sdaPullup sclPullup : Bool) → Except I2cFault Unit × β
  write : β → (address : UInt8) → Bytes → Except I2cFault Unit × β
  read : β → (address : UInt8) → (slice : Bytes) → Except I2cFault Unit × Bytes × β

/-- An access that was made to an I2C port. -/
inductive I2cAccess where
  | configure (frequency : Nat) (sdaPullup sclPullup : Bool)
  | write (address : UInt8) (data : Bytes)
  | read (address : UInt8) (count : Nat)
deriving DecidableEq, Repr

def I2cAccess.text : I2cAccess → String
  | configure frequency sda scl => s!"configure {frequency} {sda} {scl}"
  | write address data => s!"write {address.toNat} {Hex.compact data}"
  | read address count => s!"read {address.toNat} {count}"

end BusBridge

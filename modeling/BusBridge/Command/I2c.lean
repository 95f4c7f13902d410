import BusBridge.Command.Payload
/-!
# Payloads of I2C masters
-/

namespace BusBridge.I2c

/-- Configure the port of the request's channel. -/
structure Config where
  clock : ClockSpeed
  /-- nonzero to pull SDA up -/
  sdaPullup : UInt8
  /-- nonzero to pull SCL up -/
  sclPullup : UInt8
deriving DecidableEq, Repr

namespace Config

/-- Both lines pulled up, or none. -/
def withPullups (clock : ClockSpeed) (pullups : Bool) : Config :=
  let flag := if pullups then 1 else 0
  ⟨clock, flag, flag⟩

instance : Packed Config where
  size := 3
  bytes order c := Packed.bytes order c.clock ++ [c.sdaPullup, c.sclPullup]
  read order bs := do
    let (clock, rest) ← Packed.read order bs
    let (sda, rest) ← Packed.read order rest
    let (scl, rest) ← Packed.read order rest
    return (⟨clock, sda, scl⟩, rest)

instance : Payload Config := .ofPacked Config

end Config

/-- Bytes with the address of the slave they go to or come from. -/
structure Data where
  address : UInt16
  data : Bytes
deriving DecidableEq, Repr

instance : Payload Data where
  pieces d := [wire d.address, d.data]
  decode bs := do
    let (address, s) ← (Scan.mk bs).unpack
    return ⟨address, s.rest⟩

/-- The body of a write response: the address, echoed. -/
structure Written where
  address : UInt16
deriving DecidableEq, Repr

instance : Packed Written where
  size := 2
  bytes order w := Packed.bytes order w.address
  read order bs := (Packed.read order bs).map fun (address, rest) => (⟨address⟩, rest)

instance : Payload Written := .ofPacked Written

/-- Read bytes from a slave. -/
structure Read where
  address : UInt16
  count : UInt8
deriving DecidableEq, Repr

instance : Packed Read where
  size := 3
  bytes order r := Packed.bytes order r.address ++ [r.count]
  read order bs := do
    let (address, rest) ← Packed.read order bs
    let (count, rest) ← Packed.read order rest
    return (⟨address, count⟩, rest)

instance : Payload Read := .ofPacked Read

end BusBridge.I2c

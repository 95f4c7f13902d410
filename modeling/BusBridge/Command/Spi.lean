import BusBridge.Command.Payload
/-!
# Payloads of SPI masters

`Settings` is a configuration that a port can apply: `Config.settings?` accepts words of 4 to 16
bits, a known bit order, a polarity and a phase of 0 or 1, and a clock that is not zero.
-/

namespace BusBridge.Spi

/-- Number of ports; the channels are those below it. -/
structure Channels where
  count : UInt8
deriving DecidableEq, Repr

instance : Packed Channels where
  size := 1
  bytes _ c := [c.count]
  read order bs := (Packed.read order bs).map fun (count, rest) => (⟨count⟩, rest)

instance : Payload Channels := .ofPacked Channels

/-- Configure the port of the request's channel. -/
structure Config where
  /-- bits of a word -/
  dataBits : UInt8
  bitOrder : BitOrder
  /-- clock polarity, 0 for idle low -/
  cpol : UInt8
  /-- clock phase, 0 to sample on the first edge -/
  cpha : UInt8
  /-- clock frequency in hertz -/
  baudRate : UInt32
deriving DecidableEq, Repr

/-- Clock level between transfers. -/
inductive Polarity where
  | idleLow
  | idleHigh
deriving DecidableEq, Repr

/-- Clock edge on which data is sampled. -/
inductive Phase where
  | firstTransition
  | secondTransition
deriving DecidableEq, Repr

/-- A configuration that a port can apply. -/
structure Settings where
  dataBits : UInt8
  bitOrder : BitOrder
  polarity : Polarity
  phase : Phase
  frequency : UInt32
deriving DecidableEq, Repr

def Polarity.name : Polarity → String
  | idleLow => "IdleLow"
  | idleHigh => "IdleHigh"

def Polarity.ofByte? (b : UInt8) : Option Polarity :=
  if b = 0 then some idleLow else if b = 1 then some idleHigh else none

def Phase.name : Phase → String
  | firstTransition => "CaptureOnFirstTransition"
  | secondTransition => "CaptureOnSecondTransition"

def Phase.ofByte? (b : UInt8) : Option Phase :=
  if b = 0 then some firstTransition else if b = 1 then some secondTransition else none

namespace Config

/-- Words of 8 bits, most significant bit first, in one of the four usual modes. -/
def ofMode (mode : UInt8) (baudRate : UInt32) : Config where
  dataBits := 8
  bitOrder := .msbFirst
  cpol := (mode >>> 1) &&& 1
  cpha := mode &&& 1
  baudRate := baudRate

/-- The settings that a configuration asks for, if it is valid. -/
def settings? (c : Config) : Option Settings :=
  if 4 ≤ c.dataBits ∧ c.dataBits ≤ 16 ∧ c.bitOrder ≠ .invalid ∧ c.baudRate ≠ 0 then do
    let polarity ← Polarity.ofByte? c.cpol
    let phase ← Phase.ofByte? c.cpha
    return ⟨c.dataBits, c.bitOrder, polarity, phase, c.baudRate⟩
  else
    none

instance : Packed Config where
  size := 8
  bytes order c := c.dataBits :: Packed.bytes order c.bitOrder ++ c.cpol :: c.cpha :: Packed.bytes order c.baudRate
  read order bs := do
    let (dataBits, rest) ← Packed.read order bs
    let (bitOrder, rest) ← Packed.read order rest
    let (cpol, rest) ← Packed.read order rest
    let (cpha, rest) ← Packed.read order rest
    let (baudRate, rest) ← Packed.read order rest
    return (⟨dataBits, bitOrder, cpol, cpha, baudRate⟩, rest)

instance : Payload Config := .ofPacked Config

end Config

/-- The words of a settings record, separated by one space. -/
def Settings.summary (s : Settings) : String :=
  s!"{s.dataBits.toNat} {s.bitOrder.name} {s.polarity.name} {s.phase.name} {s.frequency.toNat}"

/-- The text of a settings record in notices. -/
def Settings.text (s : Settings) : String :=
  s!"SpiSettings \x7b data_bits: {s.dataBits.toNat}, bit_order: {s.bitOrder.name}, " ++
  s!"mode: Mode \x7b polarity: {s.polarity.name}, phase: {s.phase.name} \x7d, frequency: {s.frequency.toNat} \x7d"

/-- Clock bytes in. -/
structure Read where
  count : UInt16
deriving DecidableEq, Repr

instance : Packed Read where
  size := 2
  bytes order r := Packed.bytes order r.count
  read order bs := (Packed.read order bs).map fun (count, rest) => (⟨count⟩, rest)

instance : Payload Read := .ofPacked Read

end BusBridge.Spi

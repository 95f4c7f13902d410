import BusBridge.Command.Spi
import BusBridge.Wire.Hex
/-!
# SPI ports

What an SPI master asks of its hardware. Reads and transfers happen in place: the port is given a
slice and answers with what the slice holds afterwards.
-/

namespace BusBridge

/-- How an access to an SPI port failed. -/
inductive SpiFault where
  | overrun
  | modeFault
  | frameFormat
  | chipSelectFault
  | other
deriving DecidableEq, Repr

def SpiFault.text : SpiFault → String
  | overrun => "Overrun"
  | modeFault => "ModeFault"
  | frameFormat => "FrameFormat"
  | chipSelectFault => "ChipSelectFault"
  | other => "Other"

/-- Hardware of one SPI port. -/
class SpiPort (β : Type) where
  configure : β → Spi.Settings → Except SpiFault Unit × β
  write : β → Bytes → Except SpiFault Unit × β
  read : β → (slice : Bytes) → Except SpiFault Unit × Bytes × β
  transfer : β → (slice : Bytes) → Except SpiFault Unit × Bytes × β

/-- An access that was made to an SPI port. -/
inductive SpiAccess where
  | configure (settings : Spi.Settings)
  | write (data : Bytes)
  | read (count : Nat)
  | transfer (data : Bytes)
deriving DecidableEq, Repr

def SpiAccess.text : SpiAccess → String
  | configure settings => s!"configure {settings.summary}"
  | write data => s!"write {Hex.compact data}"
  | read count => s!"read {count}"
  | transfer data => s!"transfer {Hex.compact data}"

end BusBridge

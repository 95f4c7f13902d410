import BusBridge.Wire.Layout
/-!
# Headers and messages

A frame is a header of five bytes followed by as many payload bytes as the header declares. A
message is what a frame carries; its frame is `Message.frame`.
-/

namespace BusBridge

/-- The bytes in front of every payload. -/
structure Header where
  component : UInt8
  operation : UInt8
  channel : UInt8
  /-- number of payload bytes that follow -/
  length : UInt16
deriving DecidableEq, Repr

namespace Header

/-- Bytes of a header on the wire. -/
abbrev size : Nat := 5

instance : Packed Header where
  size := size
  bytes order h := h.component :: h.operation :: h.channel :: Packed.bytes order h.length
  read
    | order, component :: operation :: channel :: rest =>
      (Packed.read order rest).map fun (length, rest) => (⟨component, operation, channel, length⟩, rest)
    | _, _ => none

/-- The header at the start of a byte string, if there are enough bytes. -/
def read? (bs : Bytes) : Option Header :=
  (Packed.read .big bs).map Prod.fst

/-- Put a header at the start of a block, if there is room for it. -/
def write? (h : Header) (block : Bytes) : Option Bytes :=
  if block.length < size then none else some (Bytes.overlay block 0 (wire h))

/-- The text of a header in notices. -/
def text (h : Header) : String :=
  s!"Header \x7b component: {h.component.toNat}, operation: {h.operation.toNat}, " ++
  s!"channel: {h.channel.toNat}, payload_length: {h.length.toNat} \x7d"

end Header

/-- Largest frame of endpoints that choose no size of their own. -/
def defaultFrameSize : Nat := 1024

/-- Largest payload length that a header can declare. -/
def maxPayload : Nat := 65535

/-- What a frame carries. -/
structure Message where
  component : UInt8
  operation : UInt8
  channel : UInt8
  payload : Bytes
deriving DecidableEq, Repr

namespace Message

/-- The header of a message; a payload too long for a header is declared with the largest length. -/
def header (m : Message) : Header where
  component := m.component
  operation := m.operation
  channel := m.channel
  length := UInt16.ofNat (min m.payload.length maxPayload)

/-- The bytes of a message on the wire. -/
def frame (m : Message) : Bytes :=
  wire m.header ++ m.payload

end Message

/-- Bit set in the operation of every response. -/
def responseBit : UInt8 := 0x80

/-- The operation of the response to a request operation. -/
def responseTo (operation : UInt8) : UInt8 :=
  operation ||| responseBit

end BusBridge

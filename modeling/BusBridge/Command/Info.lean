import BusBridge.Command.Payload
/-!
# Payloads about the bridge itself

Versions, the description of the hardware, the list of components and delays.
-/

namespace BusBridge.Info

/-- Version of the protocol that this library speaks. -/
def protocolVersion : UInt8 := 1

structure Version where
  version : UInt8
deriving DecidableEq, Repr

instance : Packed Version where
  size := 1
  bytes _ v := [v.version]
  read order bs := (Packed.read order bs).map fun (b, rest) => (⟨b⟩, rest)

instance : Payload Version := .ofPacked Version

/-- Description of the hardware, for people. -/
structure Hardware where
  description : String
deriving DecidableEq, Repr

instance : Payload Hardware where
  pieces h := [h.description.toUTF8.toList]
  decode bs :=
    match String.fromUTF8? bs.toByteArray with
    | some text => .ok ⟨text⟩
    | none => .error .notText

/-- The identifiers of the components that a bridge serves, one byte each. -/
structure Components where
  ids : Bytes
deriving DecidableEq, Repr

namespace Components

def toList (c : Components) : List ComponentId :=
  c.ids.map ComponentId.ofByte

/-- Whether the byte of a component is in the list. -/
def contains (c : Components) (id : ComponentId) : Bool :=
  c.ids.contains id.toByte

instance : Payload Components where
  pieces c := [c.ids]
  decode bs := .ok ⟨bs⟩

end Components

/-- Make the bridge wait before it answers. -/
structure Delay where
  milliseconds : UInt32
deriving DecidableEq, Repr

instance : Packed Delay where
  size := 4
  bytes order d := Packed.bytes order d.milliseconds
  read order bs := (Packed.read order bs).map fun (ms, rest) => (⟨ms⟩, rest)

instance : Payload Delay := .ofPacked Delay

end BusBridge.Info

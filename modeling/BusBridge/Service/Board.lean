import BusBridge.Service.Router
/-!
# The bridge's own service

Answers about the bridge itself and makes it wait.
-/

namespace BusBridge

/-- What a bridge tells about itself. -/
structure Board where
  /-- description for people -/
  hardware : String
  firmware : UInt8
  /-- components that the bridge serves -/
  components : List ComponentId

namespace Board

/-- Wait as asked, then acknowledge. -/
def wait (payload : Bytes) (reply : Reply) : Trace (Except CapacityError Outcome × Reply) := do
  match (Payload.decode payload : Except DecodeError Info.Delay) with
  | .ok d =>
    note (.delaying d.milliseconds)
    emit (.delay d.milliseconds)
    pure (reply.finish .ok [])
  | .error e =>
    note (.delayRefused e)
    pure (reply.finish .invalidArguments [])

def answer (b : Board) (request : Message) (reply : Reply) : Trace (Except CapacityError Outcome × Reply) :=
  if request.operation = Command.protocolVersion.operation then
    pure (reply.finish .ok [wire Info.protocolVersion])
  else if request.operation = Command.hardwareInfo.operation then
    pure (reply.finish .ok [b.hardware.toUTF8.toList])
  else if request.operation = Command.firmwareVersion.operation then
    pure (reply.finish .ok [wire b.firmware])
  else if request.operation = Command.supportedComponents.operation then
    pure (reply.finish .ok (b.components.map fun id => wire id.toByte))
  else if request.operation = Command.delay.operation then
    wait request.payload reply
  else
    pure (.ok .notImplemented, reply)

instance : Service Board where
  handle b request reply := do
    let (outcome, reply) ← b.answer request reply
    pure (outcome, reply, b)

end Board

end BusBridge

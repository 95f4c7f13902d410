import BusBridge.Wire.Hex
/-!
# Faults

The rules of use whose breach stops the work at once. A fault is a mistake of the caller; what can go
wrong on the line is an error that an operation returns.
-/

namespace BusBridge

/-- A rule of use was broken. -/
inductive Fault where
  /-- a frame was to be sent while another one is being sent -/
  | busy
  /-- a frame without a header was to be sent -/
  | headless
  /-- the buffers of an endpoint have no room for a payload -/
  | noRoom
  | registeredTwice (component : UInt8)
  /-- a deadline lies beyond the last moment that the clock can tell -/
  | noDeadline
  /-- a bus accepted no byte of a write -/
  | nothingWritten
  /-- more rounds were needed than allowed -/
  | exhausted
deriving DecidableEq, Repr

def Fault.message : Fault → String
  | busy => "cannot send a frame while the previous one is still being sent"
  | headless => "frame must start with a header"
  | noRoom => "transport buffers must have room for a header and a payload"
  | registeredTwice component => s!"component {Hex.ident component} registered twice"
  | noDeadline => "overflow when adding duration to instant"
  | nothingWritten => "write() returned Ok(0)"
  | exhausted => "more rounds needed than allowed"

end BusBridge

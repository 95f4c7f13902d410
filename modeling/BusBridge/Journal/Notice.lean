import BusBridge.Command.Request
import BusBridge.Journal.Duration
import BusBridge.Port.I2c
import BusBridge.Port.Spi
/-!
# Notices

What the library reports about its own work while it goes on. Each notice has a level, and a text
for people; only `Notice.text` decides the wording.
-/

namespace BusBridge

/-- Importance of a notice, the most severe first. -/
inductive Level where
  | warn
  | info
  | debug
  | trace
deriving DecidableEq, Repr

namespace Level

def rank : Level → Nat
  | warn => 0
  | info => 1
  | debug => 2
  | trace => 3

def name : Level → String
  | warn => "WARN"
  | info => "INFO"
  | debug => "DEBUG"
  | trace => "TRACE"

end Level

/-- An outgoing frame is larger than the send buffer. -/
structure TooLarge where
  size : Nat
  capacity : Nat
deriving DecidableEq, Repr

def TooLarge.message (e : TooLarge) : String :=
  s!"frame of {e.size} bytes exceeds send capacity of {e.capacity}"

/-- An incoming frame declares more payload than the receive buffer holds. -/
structure Oversized where
  declared : Nat
  capacity : Nat
deriving DecidableEq, Repr

def Oversized.message (e : Oversized) : String :=
  s!"frame declares {e.declared} bytes of payload, receive capacity is {e.capacity}"

inductive Notice where
  -- the line
  | headerReceived (h : Header)
  | frameSkipped (h : Header) (capacity : Nat)
  | frameIn (frame : Bytes)
  | frameOut (frame : Bytes)
  | frameSent (size : Nat)
  | sendAbandoned
  | sendCut (sent : Nat)
  | skipped (e : Oversized)
  -- routing requests to services
  | noService (component : UInt8)
  | overrun
  | routed (h : Header)
  | replyTooLong (h : Header)
  | noOperation (component operation : UInt8)
  | replyNotSent (e : TooLarge)
  -- services
  | delaying (milliseconds : UInt32)
  | delayRefused (e : DecodeError)
  | i2cConfiguring (channel : UInt8) (frequency : Nat)
  | i2cFailed (fault : I2cFault)
  | spiConfiguring (channel : UInt8) (settings : Spi.Settings)
  | spiFailed (fault : SpiFault)
  -- waiting for responses
  | mismatched (h : Header)
  | unexpected (h : Header)
  | stillSending (timeout : Duration)
  | noResponse (timeout : Duration)
  -- conversations
  | requestReplaced
  | requestWaits
  | requestNotSent (e : TooLarge)
  | afterEnd (h : Header)
  | bridgeVersion (version : UInt8)
  | lightFailed (e : AnswerError)
deriving DecidableEq, Repr

namespace Notice

def level : Notice → Level
  | headerReceived _ | frameSent _ => .trace
  | sendCut _ | skipped _ | routed _ | delaying _ | i2cConfiguring _ _ | spiConfiguring _ _ | requestWaits => .debug
  | frameIn _ | frameOut _ | bridgeVersion _ => .info
  | frameSkipped _ _ | sendAbandoned | noService _ | overrun | replyTooLong _ | noOperation _ _ | replyNotSent _
  | delayRefused _ | i2cFailed _ | spiFailed _ | mismatched _ | unexpected _ | stillSending _ | noResponse _
  | requestReplaced | requestNotSent _ | afterEnd _ | lightFailed _ => .warn

def text : Notice → String
  | headerReceived h => s!"receive header {h.text}"
  | frameSkipped h capacity => s!"frame {h.text} exceeds receive capacity of {capacity} bytes, discarding it"
  | frameIn frame => s!"<- {Hex.spaced frame}"
  | frameOut frame => s!"-> {Hex.spaced frame}"
  | frameSent size => s!"sent frame of {size} bytes"
  | sendAbandoned => "abandon emission of pending frame"
  | sendCut sent => s!"abandon emission after {sent} bytes"
  | skipped e => e.message
  | noService component => s!"no component {Hex.ident component}, request dropped"
  | overrun => "previous response is still being sent, request dropped"
  | routed h => s!"dispatch {h.text}"
  | replyTooLong h => s!"response to {h.text} does not fit in send buffer"
  | noOperation component operation =>
    s!"component {Hex.ident component} has no operation {Hex.ident operation}, request dropped"
  | replyNotSent e => s!"cannot send response: {e.message}"
  | delaying milliseconds => s!"delay {milliseconds.toNat} ms"
  | delayRefused e => s!"invalid delay request: {e.message}"
  | i2cConfiguring channel frequency => s!"configure i2c port {channel.toNat} at {frequency} Hz"
  | i2cFailed fault => s!"i2c failure: {fault.text}"
  | spiConfiguring channel settings => s!"configure spi port {channel.toNat} with {settings.text}"
  | spiFailed fault => s!"spi failure: {fault.text}"
  | mismatched h => s!"response {h.text} does not match pending request, ignored"
  | unexpected h => s!"unexpected message {h.text}, ignored"
  | stillSending timeout => s!"previous frame still being sent after {timeout.text}"
  | noResponse timeout => s!"no response after {timeout.text}"
  | requestReplaced => "conversation request replaced before being sent"
  | requestWaits => "conversation request waits for the link"
  | requestNotSent e => s!"conversation request not sent: {e.message}"
  | afterEnd h => s!"message {h.text} after end of conversation, ignored"
  | bridgeVersion version => s!"bridge protocol version {Hex.number version}"
  | lightFailed e => s!"lux reading failed: {e.message}"

end Notice

end BusBridge

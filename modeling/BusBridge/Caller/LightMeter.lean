import BusBridge.Caller.Dialogue
import BusBridge.Caller.Single
/-!
# Reading an ambient light sensor

A conversation of five requests with a BH1750 sensor behind a bridge: ask for the protocol version,
configure the I2C port, start a measurement, let the bridge wait for it, and read the two bytes of
the result. The first response that is no good answer ends it.
-/

namespace BusBridge

/-- Why a light reading failed. -/
inductive LightFailure where
  /-- the bridge reported a failure -/
  | status (s : Status)
  /-- a response could not be understood -/
  | malformed
  /-- a request could not be written -/
  | capacity
deriving DecidableEq, Repr

/-- The response that is waited for, over the I2C port of a channel, or the end. -/
inductive LightMeter where
  | start (channel : UInt8)
  | version (channel : UInt8)
  | configured (channel : UInt8)
  | measuring (channel : UInt8)
  | delayed (channel : UInt8)
  | reading (channel : UInt8)
  /-- illuminance in lux, as the bits of a single precision number -/
  | done (lux : UInt32)
  | failed (reason : LightFailure)
deriving DecidableEq, Repr

namespace LightMeter

/-- Address of the sensor on its bus. -/
def address : UInt16 := 0x23

/-- Command byte of the sensor: measure once in high resolution. -/
def measureOnce : UInt8 := 0x23

/-- Longest time of a measurement, in milliseconds. -/
def measurementTime : UInt32 := 30

/-- Illuminance of a measurement: the raw value divided by the single precision number nearest to
1.2, which is 10066330 / 8388608. -/
def lux (raw : UInt16) : UInt32 :=
  Single.ofRatio (raw.toNat * 8388608) 10066330

/-- Illuminance of the two bytes that the sensor gives, the high one first. -/
def lux? : Bytes → Option UInt32
  | [high, low] => some (lux (UInt16.ofNat (high.toNat * 256 + low.toNat)))
  | _ => none

/-- Go to a step and send a request, if it can be written. -/
def ask (next : LightMeter) (channel : UInt8) (r : Request) : LightMeter × Option Message :=
  match r.deferred channel with
  | .ok m => (next, some m)
  | .error _ => (failed .capacity, none)

/-- End with the failure that a response reports. -/
def fail (e : AnswerError) : Trace (LightMeter × Option Message) := do
  note (.lightFailed e)
  match e with
  | .status s => pure (failed (.status s), none)
  | .malformed _ => pure (failed .malformed, none)

def next (step : LightMeter) (message : Option Message) : Trace (LightMeter × Option Message) := do
  match step, message with
  | start channel, none => pure (ask (version channel) 0 .protocolVersion)
  | version channel, some m =>
    match Command.protocolVersion.readAnswer m.payload with
    | .ok answer =>
      note (.bridgeVersion answer.version)
      pure (ask (configured channel) channel (.i2cConfig (.withPullups .khz100 true)))
    | .error e => fail e
  | configured channel, some m =>
    match Command.i2cConfig.readAnswer m.payload with
    | .ok _ => pure (ask (measuring channel) channel (.i2cWrite ⟨address, [measureOnce]⟩))
    | .error e => fail e
  | measuring channel, some m =>
    match Command.i2cWrite.readAnswer m.payload with
    | .ok _ => pure (ask (delayed channel) 0 (.delay ⟨measurementTime⟩))
    | .error e => fail e
  | delayed channel, some m =>
    match Command.delay.readAnswer m.payload with
    | .ok _ => pure (ask (reading channel) channel (.i2cRead ⟨address, 2⟩))
    | .error e => fail e
  | reading _, some m =>
    match Command.i2cRead.readAnswer m.payload with
    | .ok answer =>
      match lux? answer.data with
      | some lux => pure (done lux, none)
      | none => pure (failed .malformed, none)
    | .error e => fail e
  | step, _ => pure (step, none)

def isFinished : LightMeter → Bool
  | done _ | failed _ => true
  | _ => false

instance : Conversation LightMeter where
  next := next
  isFinished := isFinished

end LightMeter

end BusBridge

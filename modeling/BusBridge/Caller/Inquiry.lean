import BusBridge.Caller.Call
/-!
# Typed inquiries

An inquiry is a call whose response is read and checked: the status must be good, an echoed address
must be the one asked for, and data must have the requested size. The bridge itself and the number
of SPI ports are asked for on channel 0.
-/

namespace BusBridge

namespace CallError

/-- A response that is no answer fails the call. -/
def ofAnswer {α : Type} (r : Except AnswerError α) : Except CallError α :=
  r.mapError .answer

end CallError

namespace Caller

variable {n : Nat} {δ φ : Type} [Medium δ φ]

/-- A way to call: what sends a request over a channel and gives its response. -/
abbrev Via (n : Nat) (δ : Type) := Caller n δ → UInt8 → Request → Run (Except CallError Message × Caller n δ)

/-- Call, then read the answer. -/
def inquire {α : Type} (via : Via n δ) (c : Caller n δ) (channel : UInt8) (r : Request)
    (read : Bytes → Except CallError α) : Run (Except CallError α × Caller n δ) := do
  let (result, c) ← via c channel r
  pure (result.bind fun m => read m.payload, c)

def protocolVersion (via : Via n δ) (c : Caller n δ) : Run (Except CallError UInt8 × Caller n δ) :=
  c.inquire via 0 .protocolVersion fun payload => do
    return (← CallError.ofAnswer (Command.protocolVersion.readAnswer payload)).version

def hardwareInfo (via : Via n δ) (c : Caller n δ) : Run (Except CallError String × Caller n δ) :=
  c.inquire via 0 .hardwareInfo fun payload => do
    return (← CallError.ofAnswer (Command.hardwareInfo.readAnswer payload)).description

def firmwareVersion (via : Via n δ) (c : Caller n δ) : Run (Except CallError UInt8 × Caller n δ) :=
  c.inquire via 0 .firmwareVersion fun payload => do
    return (← CallError.ofAnswer (Command.firmwareVersion.readAnswer payload)).version

def supportedComponents (via : Via n δ) (c : Caller n δ) : Run (Except CallError (List ComponentId) × Caller n δ) :=
  c.inquire via 0 .supportedComponents fun payload => do
    return (← CallError.ofAnswer (Command.supportedComponents.readAnswer payload)).toList

/-- Make the bridge wait; it answers afterwards. -/
def delay (via : Via n δ) (c : Caller n δ) (milliseconds : UInt32) : Run (Except CallError Unit × Caller n δ) :=
  c.inquire via 0 (.delay ⟨milliseconds⟩) fun payload => CallError.ofAnswer (Command.delay.readAnswer payload)

def i2cConfig (via : Via n δ) (c : Caller n δ) (channel : UInt8) (clock : ClockSpeed) (pullups : Bool) :
    Run (Except CallError Unit × Caller n δ) :=
  c.inquire via channel (.i2cConfig (.withPullups clock pullups)) fun payload =>
    CallError.ofAnswer (Command.i2cConfig.readAnswer payload)

def i2cWrite (via : Via n δ) (c : Caller n δ) (channel : UInt8) (address : UInt16) (data : Bytes) :
    Run (Except CallError Unit × Caller n δ) :=
  c.inquire via channel (.i2cWrite ⟨address, data⟩) fun payload => do
    let written ← CallError.ofAnswer (Command.i2cWrite.readAnswer payload)
    if written.address ≠ address then .error .addressMismatch else .ok ()

def i2cRead (via : Via n δ) (c : Caller n δ) (channel : UInt8) (address : UInt16) (count : UInt8) :
    Run (Except CallError Bytes × Caller n δ) :=
  c.inquire via channel (.i2cRead ⟨address, count⟩) fun payload => do
    let read ← CallError.ofAnswer (Command.i2cRead.readAnswer payload)
    if read.address ≠ address then .error .addressMismatch
    else if read.data.length ≠ count.toNat then .error .sizeMismatch
    else .ok read.data

def spiChannels (via : Via n δ) (c : Caller n δ) : Run (Except CallError UInt8 × Caller n δ) :=
  c.inquire via 0 .spiChannels fun payload => do
    return (← CallError.ofAnswer (Command.spiChannels.readAnswer payload)).count

def spiConfig (via : Via n δ) (c : Caller n δ) (channel : UInt8) (config : Spi.Config) :
    Run (Except CallError Unit × Caller n δ) :=
  c.inquire via channel (.spiConfig config) fun payload =>
    CallError.ofAnswer (Command.spiConfig.readAnswer payload)

def spiRead (via : Via n δ) (c : Caller n δ) (channel : UInt8) (count : UInt16) :
    Run (Except CallError Bytes × Caller n δ) :=
  c.inquire via channel (.spiRead ⟨count⟩) fun payload => do
    let read ← CallError.ofAnswer (Command.spiRead.readAnswer payload)
    if read.data.length ≠ count.toNat then .error .sizeMismatch else .ok read.data

def spiWrite (via : Via n δ) (c : Caller n δ) (channel : UInt8) (data : Bytes) :
    Run (Except CallError Unit × Caller n δ) :=
  c.inquire via channel (.spiWrite ⟨data⟩) fun payload =>
    CallError.ofAnswer (Command.spiWrite.readAnswer payload)

/-- Send data while receiving as many bytes. -/
def spiTransfer (via : Via n δ) (c : Caller n δ) (channel : UInt8) (data : Bytes) :
    Run (Except CallError Bytes × Caller n δ) :=
  c.inquire via channel (.spiTransfer ⟨data⟩) fun payload => do
    let received ← CallError.ofAnswer (Command.spiTransfer.readAnswer payload)
    if received.data.length ≠ data.length then .error .sizeMismatch else .ok received.data

end Caller

end BusBridge

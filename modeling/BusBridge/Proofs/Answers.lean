import BusBridge.Proofs.Replies
import BusBridge.Service.Board
import BusBridge.Service.I2cPorts
import BusBridge.Service.SpiPorts
/-!
# What the services answer

`Request.expected` says what a request of the protocol asks for and gets, as if the caller held the
hardware: the information of the board, the outcome of an access to a port, or the status of a failure. No
payload is read or written in it, and what makes arguments valid is told in it once more, apart from the
services: a channel below the number of ports, an address of seven bits, a clock of 100 or 400 kHz, and
settings within their limits (`ClockSpeed.frequency?_eq` and `Spi.Config.settings?_eq` say that the services
take the same for valid). The one trace that the way of a reply leaves is the block in which the reply is
written: an answer has to fit in it behind the status, and a port that reads is given the part of it where
the data will stand.

Each of the three services replies what is expected (`Board.answers`, `I2cPorts.answers`,
`SpiPorts.answers`), with arguments of any value and any channel.
-/

namespace BusBridge

/-- What a bridge is made of. -/
structure Outfit (β γ : Type) where
  board : Board
  i2c : I2cPorts β
  spi : SpiPorts γ

/-- What an access to an I2C port was worth. -/
def I2cPorts.ending {α : Type} (a : α) : Except I2cFault Unit → Except Status α
  | .ok _ => .ok a
  | .error .nackAddress | .error .nackData | .error .nackUnknown => .error .slaveNotConnected
  | .error .bus | .error .arbitrationLoss | .error .overrun | .error .other => .error .unknownError

/-- What an access to an SPI port was worth. -/
def SpiPorts.ending {α : Type} (a : α) : Except SpiFault Unit → Except Status α
  | .ok _ => .ok a
  | .error _ => .error .unknownError

namespace Request

/-- The request is one of the protocol. -/
def isKnown : Request → Bool
  | other _ _ _ => false
  | _ => true

variable {β γ : Type} [I2cPort β] [SpiPort γ]

/-- What a request gets from a bridge that writes its reply into a block. -/
def expected (o : Outfit β γ) (channel : UInt8) (block : Bytes) : (r : Request) → Except Status r.command.Answer
  | protocolVersion => .ok (⟨Info.protocolVersion⟩ : Info.Version)
  | hardwareInfo =>
    if o.board.hardware.utf8ByteSize < block.length then .ok (⟨o.board.hardware⟩ : Info.Hardware)
    else .error .unknownError
  | firmwareVersion => .ok (⟨o.board.firmware⟩ : Info.Version)
  | supportedComponents =>
    if o.board.components.length < block.length then .ok (⟨o.board.components.map (·.toByte)⟩ : Info.Components)
    else .error .unknownError
  | delay _ => .ok ()
  | i2cConfig config =>
    match o.i2c.ports[channel.toNat]? with
    | some port =>
      if config.clock = .khz100 ∨ config.clock = .khz400 then
        I2cPorts.ending () (I2cPort.configure port (if config.clock = .khz100 then 100000 else 400000)
          (config.sdaPullup != 0) (config.sclPullup != 0)).1
      else .error .invalidArguments
    | none => .error .invalidArguments
  | i2cWrite request =>
    match o.i2c.ports[channel.toNat]? with
    | some port =>
      if request.address ≤ 0x7f then
        I2cPorts.ending (⟨request.address⟩ : I2c.Written)
          (I2cPort.write port request.address.toUInt8 request.data).1
      else .error .invalidArguments
    | none => .error .invalidArguments
  | i2cRead request =>
    match o.i2c.ports[channel.toNat]? with
    | some port =>
      if request.address ≤ 0x7f ∧ request.count.toNat + 3 ≤ block.length then
        let slice := Bytes.slice block 3 request.count.toNat
        let (result, data, _) := I2cPort.read port request.address.toUInt8 slice
        I2cPorts.ending (⟨request.address, Bytes.overlay slice 0 data⟩ : I2c.Data) result
      else .error .invalidArguments
    | none => .error .invalidArguments
  | spiChannels => .ok (⟨UInt8.ofNat (min o.spi.ports.length 255)⟩ : Spi.Channels)
  | spiConfig config =>
    match o.spi.ports[channel.toNat]? with
    | some port =>
      if 4 ≤ config.dataBits ∧ config.dataBits ≤ 16 ∧ (config.bitOrder = .msbFirst ∨ config.bitOrder = .lsbFirst) ∧
          (config.cpol = 0 ∨ config.cpol = 1) ∧ (config.cpha = 0 ∨ config.cpha = 1) ∧ config.baudRate ≠ 0 then
        SpiPorts.ending () (SpiPort.configure port {
          dataBits := config.dataBits
          bitOrder := config.bitOrder
          polarity := if config.cpol = 0 then .idleLow else .idleHigh
          phase := if config.cpha = 0 then .firstTransition else .secondTransition
          frequency := config.baudRate }).1
      else .error .invalidArguments
    | none => .error .invalidArguments
  | spiRead request =>
    match o.spi.ports[channel.toNat]? with
    | some port =>
      if request.count.toNat + 1 ≤ block.length then
        let slice := Bytes.slice block 1 request.count.toNat
        let (result, data, _) := SpiPort.read port slice
        SpiPorts.ending (⟨Bytes.overlay slice 0 data⟩ : Raw) result
      else .error .invalidArguments
    | none => .error .invalidArguments
  | spiWrite request =>
    match o.spi.ports[channel.toNat]? with
    | some port => SpiPorts.ending () (SpiPort.write port request.data).1
    | none => .error .invalidArguments
  | spiTransfer request =>
    match o.spi.ports[channel.toNat]? with
    | some port =>
      if request.data.length + 1 ≤ block.length then
        let (result, data, _) := SpiPort.transfer port request.data
        SpiPorts.ending (⟨Bytes.overlay request.data 0 data⟩ : Raw) result
      else .error .invalidArguments
    | none => .error .invalidArguments
  | other _ _ _ => .error .unknownError

/-- A service leaves of a request, in a block, what reads as expected. -/
def AnsweredBy {κ : Type} [Service κ] (r : Request) (channel : UInt8) (block : Bytes) (service : κ)
    (expected : Except Status r.command.Answer) : Prop :=
  let left := (Service.handle service (r.message channel) (.start r.command.operation block)).value
  Answered r.command block.length expected (left.1, left.2.1)

end Request

/-! ## The board -/

theorem layout_raw (r : Raw) : Payload.layout r = r.data := by
  simp only [Payload.layout, Payload.pieces, List.flatten_cons, List.flatten_nil, List.append_nil]

namespace Board

theorem length_text (text : String) : text.toUTF8.toList.length = text.utf8ByteSize := by
  have hlist : text.toUTF8.toList = text.toUTF8.data.toList := toList_loop text.toUTF8 0 []
  rw [hlist, Array.length_toList]
  rfl

theorem length_hardware (text : String) : (Payload.layout (⟨text⟩ : Info.Hardware)).length = text.utf8ByteSize := by
  simp only [Payload.layout, Payload.pieces, List.flatten_cons, List.flatten_nil, List.append_nil, length_text]

theorem flatten_components (ids : List ComponentId) :
    (ids.map fun id => wire id.toByte).flatten = ids.map (·.toByte) := by
  induction ids with
  | nil => rfl
  | cons id ids ih =>
    rw [List.map_cons, List.flatten_cons, ih]
    rfl

theorem layout_components (bytes : Bytes) : Payload.layout (⟨bytes⟩ : Info.Components) = bytes := by
  simp only [Payload.layout, Payload.pieces, List.flatten_cons, List.flatten_nil, List.append_nil]

variable {β γ : Type} [I2cPort β] [SpiPort γ]

/-- The board's service answers the requests about the bridge. -/
theorem answers (o : Outfit β γ) (channel : UInt8) {block : Bytes} (hroom : 3 ≤ block.length) {r : Request}
    (hknown : r.isKnown = true) (hcomponent : r.command.component = ComponentId.bridge.toByte) :
    r.AnsweredBy channel block o.board (r.expected o channel block) := by
  have hblank := Reply.blank_start r.command block
  cases r with
  | protocolVersion =>
    show Answered _ _ _ ((Reply.start _ block).finish .ok [wire Info.protocolVersion])
    exact hblank.finish_fits (⟨Info.protocolVersion⟩ : Info.Version) rfl (show 1 < block.length by omega)
  | hardwareInfo =>
    show Answered _ _ _ ((Reply.start _ block).finish .ok [o.board.hardware.toUTF8.toList])
    exact hblank.finish_ok (⟨o.board.hardware⟩ : Info.Hardware) rfl (length_hardware _)
  | firmwareVersion =>
    show Answered _ _ _ ((Reply.start _ block).finish .ok [wire o.board.firmware])
    exact hblank.finish_fits (⟨o.board.firmware⟩ : Info.Version) rfl (show 1 < block.length by omega)
  | supportedComponents =>
    show Answered _ _ _ ((Reply.start _ block).finish .ok (o.board.components.map fun id => wire id.toByte))
    have hlayout := layout_components (o.board.components.map (·.toByte))
    exact hblank.finish_ok (⟨o.board.components.map (·.toByte)⟩ : Info.Components)
      ((flatten_components _).trans hlayout.symm) ((congrArg List.length hlayout).trans (List.length_map _))
  | delay arguments =>
    show Answered _ _ _ (wait (Payload.layout arguments) (.start _ block)).value
    unfold wait
    rw [Decodes.decode_layout]
    exact hblank.finish_fits () rfl (show 0 < block.length by omega)
  | i2cConfig | i2cWrite | i2cRead =>
    exact absurd hcomponent (show ComponentId.i2cMaster.toByte ≠ ComponentId.bridge.toByte by decide)
  | spiChannels | spiConfig | spiRead | spiWrite | spiTransfer =>
    exact absurd hcomponent (show ComponentId.spiMaster.toByte ≠ ComponentId.bridge.toByte by decide)
  | other => cases hknown

end Board

/-! ## I2C ports -/

/-- Two clocks have a frequency. -/
theorem ClockSpeed.frequency?_eq (clock : ClockSpeed) : clock.frequency? =
    if clock = khz100 ∨ clock = khz400 then some (if clock = khz100 then 100000 else 400000) else none := by
  cases clock <;> rfl

namespace I2cPorts

variable {β γ : Type} [I2cPort β] [SpiPort γ]

/-- What is reported of an access is what it was worth. -/
theorem report_worth {α : Type} (a : α) (result : Except I2cFault Unit) :
    Worth a (report result).value (ending a result) := by
  cases result with
  | ok => exact .ok
  | error fault => cases fault <;> exact .failed (by decide)

theorem answers_config (o : Outfit β γ) (channel : UInt8) {block : Bytes} (hroom : 3 ≤ block.length)
    (config : I2c.Config) :
    (Request.i2cConfig config).AnsweredBy channel block o.i2c
      ((Request.i2cConfig config).expected o channel block) := by
  have hblank := Reply.blank_start (Request.i2cConfig config).command block
  show Answered _ _ _ ((Reply.start _ block).finish (o.i2c.configure channel (Payload.layout config)).value.1 [])
  unfold configure port? Request.expected
  rw [Decodes.decode_layout]
  cases o.i2c.ports[channel.toNat]? with
  | none => exact hblank.finish_failed (by decide) (show 0 < block.length by omega)
  | some port =>
    simp only [ClockSpeed.frequency?_eq]
    by_cases hclock : config.clock = .khz100 ∨ config.clock = .khz400
    · simp only [if_pos hclock]
      exact hblank.finish_worth (report_worth () _) rfl (show 0 < block.length by omega)
    · simp only [if_neg hclock]
      exact hblank.finish_failed (by decide) (show 0 < block.length by omega)

/-- A write request that can be read is executed, and acknowledged with its address. -/
theorem answer_write (m : I2cPorts β) (component channel : UInt8) (r : Reply) {payload : Bytes} {arguments : I2c.Data}
    (hdecode : Payload.decode payload = .ok arguments) :
    let left := (m.answer ⟨component, Command.i2cWrite.operation, channel, payload⟩ r).value
    (left.1, left.2.1) = r.finish (m.write channel arguments).value.1 [wire arguments.address] := by
  have hother : Command.i2cWrite.operation ≠ Command.i2cConfig.operation := by decide
  simp only [answer, if_neg hother, if_true, hdecode]
  rfl

theorem answers_write (o : Outfit β γ) (channel : UInt8) {block : Bytes} (hroom : 3 ≤ block.length)
    (request : I2c.Data) :
    (Request.i2cWrite request).AnsweredBy channel block o.i2c
      ((Request.i2cWrite request).expected o channel block) := by
  have hblank := Reply.blank_start (Request.i2cWrite request).command block
  have hbody : [wire request.address].flatten = Payload.layout (⟨request.address⟩ : I2c.Written) := rfl
  have hfit : (Payload.layout (⟨request.address⟩ : I2c.Written)).length < block.length := hroom
  have hanswer := o.i2c.answer_write Command.i2cWrite.component channel (.start Command.i2cWrite.operation block)
    (Decodes.decode_layout request)
  refine (congrArg (Answered _ block.length _) hanswer).mpr ?_
  unfold write port? sevenBits? Request.expected
  cases o.i2c.ports[channel.toNat]? with
  | none => exact hblank.finish_failed (show Status.invalidArguments ≠ .ok by decide) hfit
  | some port =>
    by_cases hseven : request.address ≤ 0x7f
    · simp only [if_pos hseven]
      exact hblank.finish_worth (report_worth (⟨request.address⟩ : I2c.Written) _) hbody hfit
    · simp only [if_neg hseven]
      exact hblank.finish_failed (show Status.invalidArguments ≠ .ok by decide) hfit

/-- The reply to a read is written in place behind the status and the address. -/
theorem replyRead_eq {m : I2cPorts β} {channel : UInt8} {request : I2c.Read} {blank r : Reply}
    (hput : blank.put [wire Status.ok, wire request.address] = (.ok (), r)) :
    let left := (m.replyRead channel request blank).value
    let access := (m.read channel request.address (r.room? request.count.toNat)).value
    (left.1, left.2.1) = r.settle request.count.toNat access.1 access.2.1 [wire request.address] := by
  rcases hread : (m.read channel request.address (r.room? request.count.toNat)).value with ⟨status, data, m'⟩
  unfold Reply.room? at hread
  simp only [replyRead, hput, Trace.value_bind, hread, Reply.settle]
  by_cases hstatus : status = .ok
  · simp only [if_pos hstatus]
    cases (r.draft.fill data).advance request.count.toNat <;> rfl
  · simp only [if_neg hstatus]
    rfl

/-- A read request that can be read is executed in place. -/
theorem answer_read (m : I2cPorts β) (component channel : UInt8) (r : Reply) {payload : Bytes} {arguments : I2c.Read}
    (hdecode : Payload.decode payload = .ok arguments) :
    m.answer ⟨component, Command.i2cRead.operation, channel, payload⟩ r = m.replyRead channel arguments r := by
  have hconfig : Command.i2cRead.operation ≠ Command.i2cConfig.operation := by decide
  have hwrite : Command.i2cRead.operation ≠ Command.i2cWrite.operation := by decide
  simp only [answer, if_neg hconfig, if_neg hwrite, if_true, hdecode]

/-- The status, the address and data make the answer to a read. -/
theorem start_data (address : UInt16) (data : Bytes) : [wire Status.ok, wire address].flatten ++ data =
    wire Status.ok ++ Payload.layout (⟨address, data⟩ : I2c.Data) := by
  simp only [Payload.layout, Payload.pieces, List.flatten_cons, List.flatten_nil, List.append_nil, List.append_assoc]

/-- Data is read into the block behind the status and the address, or the reply starts again. -/
theorem answers_read (o : Outfit β γ) (channel : UInt8) {block : Bytes} (hroom : 3 ≤ block.length)
    (request : I2c.Read) :
    (Request.i2cRead request).AnsweredBy channel block o.i2c ((Request.i2cRead request).expected o channel block) := by
  obtain ⟨r, hput, hoperation, hsize, hwritten, hremaining⟩ := (Reply.blank_start Command.i2cRead block).put
    (show [wire Status.ok, wire request.address].flatten.length ≤ block.length from hroom)
  have hslice : r.room? request.count.toNat = block.slice? 3 request.count.toNat := Reply.room?_eq hremaining hroom _
  have hanswer := o.i2c.answer_read Command.i2cRead.component channel (.start Command.i2cRead.operation block)
    (Decodes.decode_layout request)
  have hleft := @replyRead_eq β _ o.i2c channel request _ r hput
  rw [← hanswer, hslice] at hleft
  refine (congrArg (Answered _ block.length _) hleft).mpr ?_
  have hinvalid : ∀ data, Answered Command.i2cRead block.length (.error .invalidArguments)
      (r.settle request.count.toNat .invalidArguments data [wire request.address]) :=
    fun _ => Reply.settle_failed hoperation hsize (by decide) hroom
  simp only [read, port?, sevenBits?, Bytes.slice?, Request.expected]
  cases o.i2c.ports[channel.toNat]? with
  | none => exact hinvalid _
  | some port =>
    by_cases hseven : request.address ≤ 0x7f
    · by_cases hfit : request.count.toNat + 3 ≤ block.length
      · simp only [if_pos hseven, if_pos hfit, if_pos (And.intro hseven hfit)]
        have hlength : (Bytes.slice block 3 request.count.toNat).length = request.count.toNat := by
          rw [Bytes.length_slice]
          omega
        refine Reply.settle_worth hoperation hsize (report_worth _ _) ((Bytes.length_overlay _ _ _).trans hlength)
          (hwritten ▸ hfit) ?_ hroom
        rw [hwritten]
        exact start_data _ _
      · simp only [if_pos hseven, if_neg hfit, if_neg (mt And.right hfit)]
        exact hinvalid _
    · simp only [if_neg hseven, if_neg (mt And.left hseven)]
      exact hinvalid _

/-- The ports' service answers the requests to I2C ports. -/
theorem answers (o : Outfit β γ) (channel : UInt8) {block : Bytes} (hroom : 3 ≤ block.length) {r : Request}
    (hknown : r.isKnown = true) (hcomponent : r.command.component = ComponentId.i2cMaster.toByte) :
    r.AnsweredBy channel block o.i2c (r.expected o channel block) := by
  cases r with
  | i2cConfig config => exact answers_config o channel hroom config
  | i2cWrite request => exact answers_write o channel hroom request
  | i2cRead request => exact answers_read o channel hroom request
  | protocolVersion | hardwareInfo | firmwareVersion | supportedComponents | delay =>
    exact absurd hcomponent (show ComponentId.bridge.toByte ≠ ComponentId.i2cMaster.toByte by decide)
  | spiChannels | spiConfig | spiRead | spiWrite | spiTransfer =>
    exact absurd hcomponent (show ComponentId.spiMaster.toByte ≠ ComponentId.i2cMaster.toByte by decide)
  | other => cases hknown

end I2cPorts

/-! ## SPI ports -/

namespace Spi

/-- A clock idles low or high. -/
theorem Polarity.ofByte?_eq (b : UInt8) :
    ofByte? b = if b = 0 ∨ b = 1 then some (if b = 0 then idleLow else idleHigh) else none := by
  unfold ofByte?
  by_cases hzero : b = 0 <;> by_cases hone : b = 1 <;> simp [hzero, hone]

/-- Data is sampled on the first or the second edge. -/
theorem Phase.ofByte?_eq (b : UInt8) :
    ofByte? b = if b = 0 ∨ b = 1 then some (if b = 0 then firstTransition else secondTransition) else none := by
  unfold ofByte?
  by_cases hzero : b = 0 <;> by_cases hone : b = 1 <;> simp [hzero, hone]

/-- The limits of the settings. -/
theorem Config.settings?_eq (config : Config) : config.settings? =
    if 4 ≤ config.dataBits ∧ config.dataBits ≤ 16 ∧ (config.bitOrder = .msbFirst ∨ config.bitOrder = .lsbFirst) ∧
        (config.cpol = 0 ∨ config.cpol = 1) ∧ (config.cpha = 0 ∨ config.cpha = 1) ∧ config.baudRate ≠ 0 then
      some {
        dataBits := config.dataBits
        bitOrder := config.bitOrder
        polarity := if config.cpol = 0 then .idleLow else .idleHigh
        phase := if config.cpha = 0 then .firstTransition else .secondTransition
        frequency := config.baudRate }
    else none := by
  have horder : config.bitOrder ≠ .invalid ↔ config.bitOrder = .msbFirst ∨ config.bitOrder = .lsbFirst := by
    cases config.bitOrder <;> decide
  simp only [settings?, Polarity.ofByte?_eq, Phase.ofByte?_eq, horder]
  by_cases hcpol : config.cpol = 0 ∨ config.cpol = 1 <;> by_cases hcpha : config.cpha = 0 ∨ config.cpha = 1 <;>
    simp [hcpol, hcpha]

end Spi

namespace SpiPorts

variable {β γ : Type}

/-- What is reported of an access is what it was worth. -/
theorem report_worth {α : Type} (a : α) (result : Except SpiFault Unit) :
    Worth a (report result).value (ending a result) := by
  cases result with
  | ok => exact .ok
  | error fault => exact .failed (show Status.unknownError ≠ .ok by decide)

/-- A reply in place reads as what the access was worth, if what it gave fits. -/
theorem replyInPlace_answered {c : Command} {count : Nat} {block : Bytes} {m : SpiPorts γ}
    {access : Option Bytes → Trace (Status × Bytes × SpiPorts γ)} {expected : Except Status c.Answer}
    {raw : Bytes → c.Answer} (hraw : ∀ data, Payload.layout (raw data) = data) (hroom : 3 ≤ block.length)
    (hworth : let accessed := (access (block.slice? 1 count)).value
      Worth (raw accessed.2.1) accessed.1 expected)
    (hfit : let accessed := (access (block.slice? 1 count)).value
      accessed.1 = .ok → accessed.2.1.length = count ∧ count + 1 ≤ block.length) :
    let left := (m.replyInPlace count (.start c.operation block) access).value
    Answered c block.length expected (left.1, left.2.1) := by
  obtain ⟨r, hput, hoperation, hsize, hwritten, hremaining⟩ := (Reply.blank_start c block).put
    (show [wire Status.ok].flatten.length ≤ block.length from Nat.le_trans (by decide) hroom)
  have hslice : r.room? count = block.slice? 1 count := Reply.room?_eq hremaining (Nat.le_trans (by decide) hroom) count
  have hleft : let left := (m.replyInPlace count (.start c.operation block) access).value
      let accessed := (access (r.room? count)).value
      (left.1, left.2.1) = r.settle count accessed.1 accessed.2.1 [] := by
    simp only [replyInPlace, hput]
    rfl
  rw [hslice] at hleft
  refine (congrArg (Answered c block.length expected) hleft).mpr ?_
  rcases haccess : (access (block.slice? 1 count)).value with ⟨status, data, m'⟩
  rw [haccess] at hworth hfit
  cases hworth with
  | ok =>
    obtain ⟨hcount, hspace⟩ := hfit rfl
    refine Reply.settle_ok hoperation hsize hcount (hwritten ▸ hspace) ?_
    rw [hwritten, hraw]
    rfl
  | failed hstatus => exact Reply.settle_failed hoperation hsize hstatus (show 0 < block.length by omega)

variable [I2cPort β] [SpiPort γ]

theorem answers_config (o : Outfit β γ) (channel : UInt8) {block : Bytes} (hroom : 3 ≤ block.length)
    (config : Spi.Config) :
    (Request.spiConfig config).AnsweredBy channel block o.spi
      ((Request.spiConfig config).expected o channel block) := by
  have hblank := Reply.blank_start (Request.spiConfig config).command block
  show Answered _ _ _ ((Reply.start _ block).finish (o.spi.configure channel (Payload.layout config)).value.1 [])
  unfold configure port? Request.expected
  rw [Decodes.decode_layout]
  cases o.spi.ports[channel.toNat]? with
  | none => exact hblank.finish_failed (by decide) (show 0 < block.length by omega)
  | some port =>
    simp only [Spi.Config.settings?_eq]
    by_cases hvalid : 4 ≤ config.dataBits ∧ config.dataBits ≤ 16 ∧
        (config.bitOrder = .msbFirst ∨ config.bitOrder = .lsbFirst) ∧ (config.cpol = 0 ∨ config.cpol = 1) ∧
        (config.cpha = 0 ∨ config.cpha = 1) ∧ config.baudRate ≠ 0
    · simp only [if_pos hvalid]
      exact hblank.finish_worth (report_worth () _) rfl (show 0 < block.length by omega)
    · simp only [if_neg hvalid]
      exact hblank.finish_failed (by decide) (show 0 < block.length by omega)

theorem answers_write (o : Outfit β γ) (channel : UInt8) {block : Bytes} (hroom : 3 ≤ block.length) (request : Raw) :
    (Request.spiWrite request).AnsweredBy channel block o.spi
      ((Request.spiWrite request).expected o channel block) := by
  have hblank := Reply.blank_start (Request.spiWrite request).command block
  show Answered _ _ _ ((Reply.start _ block).finish (o.spi.write channel (Payload.layout request)).value.1 [])
  simp only [write, port?, Request.expected, layout_raw]
  cases o.spi.ports[channel.toNat]? with
  | none => exact hblank.finish_failed (by decide) (show 0 < block.length by omega)
  | some port => exact hblank.finish_worth (report_worth () _) rfl (show 0 < block.length by omega)

/-- A read request that can be read is executed in place. -/
theorem answer_read (m : SpiPorts γ) (component channel : UInt8) (r : Reply) {payload : Bytes} {arguments : Spi.Read}
    (hdecode : Payload.decode payload = .ok arguments) :
    m.answer ⟨component, Command.spiRead.operation, channel, payload⟩ r =
      m.replyInPlace arguments.count.toNat r (m.read channel) := by
  have hchannels : Command.spiRead.operation ≠ Command.spiChannels.operation := by decide
  have hconfig : Command.spiRead.operation ≠ Command.spiConfig.operation := by decide
  simp only [answer, if_neg hchannels, if_neg hconfig, if_true, hdecode]

/-- A slice is read into if there are a port and the space for it. -/
theorem read_worth (o : Outfit β γ) (channel : UInt8) (block : Bytes) (request : Spi.Read) :
    let accessed := (o.spi.read channel (block.slice? 1 request.count.toNat)).value
    Worth (⟨accessed.2.1⟩ : Raw) accessed.1 ((Request.spiRead request).expected o channel block) ∧
      (accessed.1 = .ok → accessed.2.1.length = request.count.toNat ∧ request.count.toNat + 1 ≤ block.length) := by
  have hinvalid : Status.invalidArguments ≠ .ok := by decide
  simp only [read, port?, Bytes.slice?, Request.expected]
  cases o.spi.ports[channel.toNat]? with
  | none => exact ⟨.failed hinvalid, fun h => absurd h hinvalid⟩
  | some port =>
    by_cases hfit : request.count.toNat + 1 ≤ block.length
    · simp only [if_pos hfit]
      refine ⟨report_worth _ _, fun _ => ⟨(Bytes.length_overlay _ _ _).trans ?_, hfit⟩⟩
      rw [Bytes.length_slice]
      omega
    · simp only [if_neg hfit]
      exact ⟨.failed hinvalid, fun h => absurd h hinvalid⟩

theorem answers_read (o : Outfit β γ) (channel : UInt8) {block : Bytes} (hroom : 3 ≤ block.length)
    (request : Spi.Read) :
    (Request.spiRead request).AnsweredBy channel block o.spi ((Request.spiRead request).expected o channel block) := by
  obtain ⟨hworth, hfit⟩ := read_worth o channel block request
  have hreply :=
    @replyInPlace_answered γ Command.spiRead _ _ o.spi _ _ Raw.mk (fun data => layout_raw ⟨data⟩) hroom hworth hfit
  rw [← o.spi.answer_read Command.spiRead.component channel _ (Decodes.decode_layout request)] at hreply
  exact hreply

/-- The payload is exchanged if there are a port and the space for it. -/
theorem transfer_worth (o : Outfit β γ) (channel : UInt8) (block : Bytes) (request : Raw) :
    let accessed := (o.spi.transfer channel ((block.slice? 1 request.data.length).map fun _ => request.data)).value
    Worth (⟨accessed.2.1⟩ : Raw) accessed.1 ((Request.spiTransfer request).expected o channel block) ∧
      (accessed.1 = .ok → accessed.2.1.length = request.data.length ∧ request.data.length + 1 ≤ block.length) := by
  have hinvalid : Status.invalidArguments ≠ .ok := by decide
  simp only [transfer, port?, Request.expected, Bytes.slice?]
  cases o.spi.ports[channel.toNat]? with
  | none => exact ⟨.failed hinvalid, fun h => absurd h hinvalid⟩
  | some port =>
    by_cases hfit : request.data.length + 1 ≤ block.length
    · simp only [if_pos hfit]
      exact ⟨report_worth _ _, fun _ => ⟨Bytes.length_overlay _ _ _, hfit⟩⟩
    · simp only [if_neg hfit]
      exact ⟨.failed hinvalid, fun h => absurd h hinvalid⟩

theorem answers_transfer (o : Outfit β γ) (channel : UInt8) {block : Bytes} (hroom : 3 ≤ block.length) (request : Raw) :
    (Request.spiTransfer request).AnsweredBy channel block o.spi
      ((Request.spiTransfer request).expected o channel block) := by
  obtain ⟨hworth, hfit⟩ := transfer_worth o channel block request
  have hreply := @replyInPlace_answered γ Command.spiTransfer _ _ o.spi
    (fun slice? => o.spi.transfer channel (slice?.map fun _ => request.data)) _ Raw.mk (fun data => layout_raw ⟨data⟩)
    hroom hworth hfit
  rw [← layout_raw request] at hreply
  exact hreply

/-- The ports' service answers the requests to SPI ports. -/
theorem answers (o : Outfit β γ) (channel : UInt8) {block : Bytes} (hroom : 3 ≤ block.length) {r : Request}
    (hknown : r.isKnown = true) (hcomponent : r.command.component = ComponentId.spiMaster.toByte) :
    r.AnsweredBy channel block o.spi (r.expected o channel block) := by
  cases r with
  | spiChannels =>
    show Answered _ _ _ ((Reply.start _ block).finish .ok [wire o.spi.count])
    exact (Reply.blank_start Command.spiChannels block).finish_fits (⟨o.spi.count⟩ : Spi.Channels) rfl
      (show 1 < block.length by omega)
  | spiConfig config => exact answers_config o channel hroom config
  | spiRead request => exact answers_read o channel hroom request
  | spiWrite request => exact answers_write o channel hroom request
  | spiTransfer request => exact answers_transfer o channel hroom request
  | protocolVersion | hardwareInfo | firmwareVersion | supportedComponents | delay =>
    exact absurd hcomponent (show ComponentId.bridge.toByte ≠ ComponentId.spiMaster.toByte by decide)
  | i2cConfig | i2cWrite | i2cRead =>
    exact absurd hcomponent (show ComponentId.i2cMaster.toByte ≠ ComponentId.spiMaster.toByte by decide)
  | other => cases hknown

end SpiPorts

end BusBridge

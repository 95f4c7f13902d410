import BusBridge.Bench.Device
import BusBridge.Proofs.Answers
import BusBridge.Proofs.PayloadTable
/-!
# When the hardware is accessed

Ports decode a request, look for the port, check arguments and space, access the hardware and write the reply, for
every operation in an order of its own, and some of them write a success before there is one. Here they are compared
with something simpler. `I2cAccess.asked?` and `SpiAccess.asked?` read off the bytes of a request which access it asks
for, if any. `Bus.conduct` makes this access, if the channel has a port, and no other, and tells how it ended.

The main statement is `ports_conduct`: whatever the bytes of a request are, ports do no more and no less than that, and
the reply starts with the code of what they did. The reply needs three bytes, for the longest one without data.

What hardware does is arbitrary. What stands in the block before it is written is not hidden from it: a read is given
the part of the block that it has to fill.
-/

namespace BusBridge

/-- The event is an access to the hardware of a port. -/
def Event.isAccess : Event → Bool
  | i2c _ _ | spi _ _ => true
  | _ => false

namespace Bytes

/-- Two bytes as a number, most significant first. -/
def half (high low : UInt8) : Nat :=
  256 * high.toNat + low.toNat

/-- Four bytes as a number, most significant first. -/
def word (a b c d : UInt8) : Nat :=
  65536 * half a b + half c d

theorem value_half (high low : UInt8) : ByteOrder.big.value [high, low] = half high low := by
  show low.toNat + 256 * (high.toNat + 256 * 0) = 256 * high.toNat + low.toNat
  omega

theorem value_word (a b c d : UInt8) : ByteOrder.big.value [a, b, c, d] = word a b c d := by
  show d.toNat + 256 * (c.toNat + 256 * (b.toNat + 256 * (a.toNat + 256 * 0))) =
    65536 * (256 * a.toNat + b.toNat) + (256 * c.toNat + d.toNat)
  omega

theorem half_lt (high low : UInt8) : half high low < 65536 := by
  rw [← value_half]
  exact ByteOrder.value_lt [high, low]

theorem word_lt (a b c d : UInt8) : word a b c d < 4294967296 := by
  rw [← value_word]
  exact ByteOrder.value_lt [a, b, c, d]

theorem wire_ofNat_half (high low : UInt8) : wire (UInt16.ofNat (half high low)) = [high, low] := by
  rw [wire_half, ← value_half, halfBytes_value]

end Bytes

/-! ## Accesses and replies -/

/-- What is seen of ports that serve a request: their accesses, the outcome, the reply, and the ports afterwards. -/
structure Conduct (β : Type) where
  accesses : List Event
  outcome : Except CapacityError Outcome
  operation : UInt8
  written : Bytes
  ports : List β

def Conduct.seen {β κ : Type} (ports : κ → List β) (x : Trace (Except CapacityError Outcome × Reply × κ)) :
    Conduct β where
  accesses := x.events.filter Event.isAccess
  outcome := x.value.1
  operation := x.value.2.1.operation
  written := x.value.2.1.written
  ports := ports x.value.2.2

/-- A request that is not for these ports leaves no trace. -/
theorem Conduct.seen_unanswered {β κ : Type} (ports : κ → List β) (service : κ) {r : Reply}
    (hblank : r.draft.length = 0) :
    Conduct.seen ports (pure (.ok .notImplemented, r, service)) =
      ⟨[], .ok .notImplemented, r.operation, [], ports service⟩ := by
  simp only [Conduct.seen, Trace.events_pure, Trace.value_pure, List.filter_nil, Reply.written, Draft.written, hblank,
    List.take_zero]

/-- A kind of ports: how an access shows, what it does to a port, and the code that reports a fault. -/
structure Bus (A φ β : Type) where
  event : Nat → A → Event
  perform : A → β → Except φ Unit × Bytes × β
  code : φ → UInt8

namespace Bus

variable {A φ β : Type}

/-- Make the access that is asked for, if there is a port for it, and reply with the code of how it ended, with what is
told again of the request, and with the data of a success. -/
def conduct (bus : Bus A φ β) (ports : List β) (channel : Nat) (asked? : Option A) (echo : Bytes) (operation : UInt8) :
    Conduct β :=
  match asked?, ports[channel]? with
  | some a, some port =>
    let (result, data, port) := bus.perform a port
    let written :=
      match result with
      | .ok _ => 0 :: (echo ++ data)
      | .error fault => bus.code fault :: echo
    ⟨[bus.event channel a], .ok .replied, operation, written, ports.set channel port⟩
  | _, _ => ⟨[], .ok .replied, operation, 2 :: echo, ports⟩

/-- The one access is that which is asked for. -/
theorem mem_accesses {bus : Bus A φ β} {ports : List β} {channel : Nat} {asked? : Option A} {echo : Bytes}
    {operation : UInt8} {e : Event} : e ∈ (bus.conduct ports channel asked? echo operation).accesses ↔
      ∃ a, asked? = some a ∧ channel < ports.length ∧ e = bus.event channel a := by
  cases asked? with
  | none => simp only [conduct, List.not_mem_nil, reduceCtorEq, false_and, exists_false]
  | some a =>
    by_cases hport : channel < ports.length
    · simp only [conduct, List.getElem?_eq_getElem hport, List.mem_singleton, Option.some.injEq, hport, true_and,
        exists_eq_left']
    · simp only [conduct, List.getElem?_eq_none (Nat.le_of_not_lt hport), List.not_mem_nil, hport, false_and, and_false,
        exists_false]

/-- How an attempt at an access can end: the events on the way, the status, the data and the ports afterwards. -/
inductive Attempts (bus : Bus A φ β) (ports : List β) (channel : Nat) (asked? : Option A) :
    List Event → Status → Bytes → List β → Prop where
  | refused {events : List Event} {data : Bytes} : asked? = none ∨ ports[channel]? = none →
      events.filter Event.isAccess = [] → Attempts bus ports channel asked? events .invalidArguments data ports
  | done {events : List Event} {a : A} {port port' : β} {data : Bytes} : asked? = some a → ports[channel]? = some port →
      bus.perform a port = (.ok (), data, port') → events.filter Event.isAccess = [bus.event channel a] →
      Attempts bus ports channel asked? events .ok data (ports.set channel port')
  | failed {events : List Event} {a : A} {port port' : β} {data : Bytes} {fault : φ} {status : Status} :
      asked? = some a →
      ports[channel]? = some port → bus.perform a port = (.error fault, data, port') →
      events.filter Event.isAccess = [bus.event channel a] → status ≠ .ok → status.toByte = bus.code fault →
      Attempts bus ports channel asked? events status data (ports.set channel port')

/-- A report tells the code of a fault, and is no access itself. -/
structure Reports (bus : Bus A φ β) (report : Except φ Unit → Trace Status) : Prop where
  access : ∀ channel a, (bus.event channel a).isAccess
  ok : report (.ok ()) = pure .ok
  silent : ∀ fault, (report (.error fault)).events.filter Event.isAccess = []
  failed : ∀ fault, (report (.error fault)).value ≠ .ok
  code : ∀ fault, (report (.error fault)).value.toByte = bus.code fault

variable {bus : Bus A φ β} {ports after : List β} {channel : Nat} {asked? : Option A} {events : List Event}
    {status : Status}
  {data : Bytes}

/-- An access that was asked for is made and reported. -/
theorem Reports.attempts {report : Except φ Unit → Trace Status} (h : bus.Reports report) {a : A} {port : β}
    (hasked : asked? = some a) (hport : ports[channel]? = some port) (before : List Event)
    (hbefore : before.filter Event.isAccess = []) :
    let (result, data, port') := bus.perform a port
    bus.Attempts ports channel asked? (before ++ bus.event channel a :: ((report result).events ++ []))
      (report result).value data (ports.set channel port') := by
  rcases hperform : bus.perform a port with ⟨result, data, port'⟩
  have hevents (hsilent : (report result).events.filter Event.isAccess = []) :
      (before ++ bus.event channel a :: ((report result).events ++ [])).filter Event.isAccess =
        [bus.event channel a] := by
    rw [List.filter_append, hbefore, List.nil_append, List.filter_cons_of_pos (h.access channel a),
      List.append_nil, hsilent]
  cases result with
  | ok _ =>
    have hok : (report (.ok ())).value = .ok := congrArg Trace.value h.ok
    simp only [hok]
    exact .done hasked hport hperform (hevents (congrArg (List.filter Event.isAccess ·.events) h.ok))
  | error fault => exact .failed hasked hport hperform (hevents (h.silent fault)) (h.failed fault) (h.code fault)

/-- What is seen of an attempt is what was to be done. -/
theorem Attempts.conduct (h : bus.Attempts ports channel asked? events status data after) (echo : Bytes)
    (operation : UInt8) :
    bus.conduct ports channel asked? echo operation =
      ⟨events.filter Event.isAccess, .ok .replied, operation,
        if status = .ok then 0 :: (echo ++ data) else status.toByte :: echo, after⟩ := by
  cases h with
  | refused hnone hevents =>
    rw [hevents]
    rcases hnone with hnone | hnone
    · simp only [Bus.conduct, hnone]
      rfl
    · cases asked? with
      | none => rfl
      | some a =>
        simp only [Bus.conduct, hnone]
        rfl
  | done hasked hport hperform hevents =>
    simp only [Bus.conduct, hasked, hport, hperform, hevents, if_true]
  | failed hasked hport hperform hevents hstatus hcode =>
    simp only [Bus.conduct, hasked, hport, hperform, hevents, if_neg hstatus, hcode]

end Bus

namespace Reply

variable {r : Reply}

theorem put_blank (hblank : r.draft.length = 0) (pieces : List Bytes)
    (hfit : pieces.flatten.length ≤ r.draft.block.length) :
    ∃ draft, r.put pieces = (.ok (), { r with draft }) ∧ draft.written = pieces.flatten ∧
      draft.remaining = r.draft.block.drop pieces.flatten.length := by
  have hspace : r.draft.space = r.draft.block.length := by rw [Draft.space, hblank, Nat.sub_zero]
  obtain ⟨draft, hput, hwritten, hremaining⟩ := Draft.putAll_fits (hspace.symm ▸ hfit)
  refine ⟨draft, by rw [put, hput], ?_, ?_⟩
  · rw [hwritten, Draft.written, hblank, List.take_zero, List.nil_append]
  · rw [hremaining, Draft.remaining, hblank, List.drop_zero]

/-- A reply that is written as a whole, if there is room for it. -/
theorem finish_blank (hblank : r.draft.length = 0) (status : Status) {body : List Bytes}
    (hfit : body.flatten.length < r.draft.block.length) :
    ∃ draft, r.finish status body = (.ok .replied, { r with draft }) ∧
      draft.written = status.toByte :: body.flatten := by
  have hlength := length_status status body
  obtain ⟨draft, hput, hwritten, _⟩ := put_blank hblank (wire status :: body) (by omega)
  exact ⟨draft, by rw [finish, hput]; rfl, hwritten⟩

variable {κ : Type}

/-- Reply with the status of an access, once it was made. -/
def finishAfter (r : Reply) (body : List Bytes) (access : Trace (Status × κ)) :
    Trace (Except CapacityError Outcome × Reply × κ) := do
  let (status, service) ← access
  let (outcome, r) := r.finish status body
  pure (outcome, r, service)

/-- Reply with a head and with `count` bytes that an access puts behind it. -/
def inPlace (r : Reply) (head rest : List Bytes) (count : Nat) (service : κ)
    (access : Option Bytes → Trace (Status × Bytes × κ)) : Trace (Except CapacityError Outcome × Reply × κ) :=
  match r.put head with
  | (.error e, r) => pure (.error e, r, service)
  | (.ok _, r) => do
    let (status, data, service) ← access (r.room? count)
    let (outcome, r) := r.settle count status data rest
    pure (outcome, r, service)

/-- Data in place is the end of the reply. After a failure the reply has started again. -/
theorem inPlace_blank (hblank : r.draft.length = 0) {head rest : List Bytes} {count : Nat} (service : κ)
    {access : Option Bytes → Trace (Status × Bytes × κ)} {x : Trace (Status × Bytes × κ)}
    (hhead : head.flatten.length ≤ r.draft.block.length) (hrest : rest.flatten.length < r.draft.block.length)
    (haccess : access (r.draft.block.slice? head.flatten.length count) = x)
    (hdata : x.value.1 = .ok → x.value.2.1.length = count ∧ count + head.flatten.length ≤ r.draft.block.length) :
    ∃ draft, r.inPlace head rest count service access = ⟨x.events, (.ok .replied, { r with draft }, x.value.2.2)⟩ ∧
      draft.written = if x.value.1 = .ok then head.flatten ++ x.value.2.1 else x.value.1.toByte :: rest.flatten := by
  obtain ⟨started, hput, hwritten, hremaining⟩ := put_blank hblank head hhead
  have hroom : Reply.room? { r with draft := started } count = r.draft.block.slice? head.flatten.length count :=
    room?_eq hremaining hhead count
  have hspace : started.space = r.draft.block.length - head.flatten.length := by
    rw [← Draft.length_remaining, hremaining, List.length_drop]
  have hblock : started.block.length = r.draft.block.length := by
    rw [Draft.length_block, hwritten, Draft.length_remaining, hspace]
    omega
  -- what is left to show is how the reply is settled
  suffices hsettle : ∃ draft, settle { r with draft := started } count x.value.1 x.value.2.1 rest =
      (.ok .replied, { r with draft }) ∧
      draft.written = if x.value.1 = .ok then head.flatten ++ x.value.2.1 else x.value.1.toByte :: rest.flatten by
    obtain ⟨draft, hsettle, hdraft⟩ := hsettle
    refine ⟨draft, ?_, hdraft⟩
    simp only [inPlace, hput, hroom, haccess]
    apply Trace.ext
    · exact List.append_nil _
    · show ((settle { r with draft := started } count x.value.1 x.value.2.1 rest).1,
        (settle { r with draft := started } count x.value.1 x.value.2.1 rest).2, x.value.2.2) = _
      rw [hsettle]
  by_cases hstatus : x.value.1 = .ok
  · obtain ⟨hcount, hfits⟩ := hdata hstatus
    have hfit : x.value.2.1.length ≤ started.space := by omega
    obtain ⟨draft, hput, hdraft, _⟩ := Draft.put_eq hfit
    refine ⟨draft, ?_, ?_⟩
    · simp only [settle, if_pos hstatus, ← hcount, Draft.advance_fill hfit, hput]
    · rw [hdraft, hwritten, if_pos hstatus]
  · have hagain : (started.fill x.value.2.1).clear.block.length = r.draft.block.length :=
      (Bytes.length_overlay _ _ _).trans hblock
    obtain ⟨draft, hfinish, hdraft⟩ := finish_blank (r := ⟨r.operation, (started.fill x.value.2.1).clear⟩) rfl x.value.1
      (hagain.symm ▸ hrest)
    refine ⟨draft, ?_, ?_⟩
    · rw [settle, if_neg hstatus]
      exact hfinish
    · rw [hdraft, if_neg hstatus]

end Reply

namespace Bus

variable {A φ β κ : Type} {bus : Bus A φ β} {before after : List β} {channel : Nat} {asked? : Option A} {echo : Bytes}
  {r : Reply} {view : κ → List β}

/-- An attempt without data, and a reply that is written as a whole. -/
theorem seen_finish {x : Trace (Status × κ)}
    (h : bus.Attempts before channel asked? x.events x.value.1 [] (view x.value.2)) (hblank : r.draft.length = 0)
    {body : List Bytes} (hbody : body.flatten = echo) (hfit : echo.length < r.draft.block.length) :
    Conduct.seen view (r.finishAfter body x) = bus.conduct before channel asked? echo r.operation := by
  obtain ⟨draft, hfinish, hwritten⟩ := Reply.finish_blank hblank x.value.1 (hbody.symm ▸ hfit)
  rw [h.conduct]
  simp only [Conduct.seen, Reply.finishAfter, Trace.events_bind, Trace.value_bind, hfinish, Trace.events_pure,
    Trace.value_pure, List.append_nil, Reply.written, hwritten, hbody]
  by_cases hstatus : x.value.1 = .ok
  · rw [if_pos hstatus, hstatus]
    rfl
  · rw [if_neg hstatus]

/-- A request without its arguments is refused. -/
theorem seen_refused (bus : Bus A φ β) (channel : Nat) (service : κ) (hasked : asked? = none)
    (hblank : r.draft.length = 0) (hfit : 0 < r.draft.block.length) :
    Conduct.seen view (r.finishAfter [] (pure (.invalidArguments, service))) =
      bus.conduct (view service) channel asked? [] r.operation :=
  seen_finish (.refused (.inl hasked) rfl) hblank rfl hfit

/-- An attempt that is made for data in place. -/
theorem seen_inPlace {x : Trace (Status × Bytes × κ)} {head rest : List Bytes} {count : Nat} {service : κ}
    {access : Option Bytes → Trace (Status × Bytes × κ)}
    (h : bus.Attempts before channel asked? x.events x.value.1 x.value.2.1 (view x.value.2.2))
    (hblank : r.draft.length = 0) (hhead : head.flatten = 0 :: echo) (hrest : rest.flatten = echo)
    (hfit : echo.length < r.draft.block.length) (haccess : access (r.draft.block.slice? (echo.length + 1) count) = x)
    (hdata : x.value.1 = .ok → x.value.2.1.length = count ∧ count + (echo.length + 1) ≤ r.draft.block.length) :
    Conduct.seen view (r.inPlace head rest count service access) =
      bus.conduct before channel asked? echo r.operation := by
  have hlength : head.flatten.length = echo.length + 1 := by rw [hhead, List.length_cons]
  obtain ⟨draft, hplace, hwritten⟩ := Reply.inPlace_blank hblank service
    (hlength.symm ▸ hfit : head.flatten.length ≤ _) (hrest.symm ▸ hfit) (hlength.symm ▸ haccess) (hlength.symm ▸ hdata)
  rw [h.conduct, hplace]
  simp only [Conduct.seen, Reply.written, hwritten, hhead, hrest, List.cons_append]

end Bus

/-! ## I2C ports -/

namespace I2cAccess

/-- The access that a request asks for, with so many bytes for the reply: a clock of code 1 or 2, addresses of seven
bits, and no more data than there is room for behind the status and the address. -/
def asked? (size : Nat) (operation : UInt8) (payload : Bytes) : Option I2cAccess :=
  match operation.toNat, payload with
  | 0, clock :: sda :: scl :: _ =>
    if clock = 1 then some (.configure 100000 (sda != 0) (scl != 0))
    else if clock = 2 then some (.configure 400000 (sda != 0) (scl != 0))
    else none
  | 1, high :: low :: data => if Bytes.half high low ≤ 0x7f then some (.write low data) else none
  | 2, high :: low :: count :: _ =>
    if Bytes.half high low ≤ 0x7f ∧ count.toNat + 3 ≤ size then some (.read low count.toNat) else none
  | _, _ => none

/-- What is told again of a request: the address, if there is one. -/
def echo (operation : UInt8) (payload : Bytes) : Bytes :=
  match operation.toNat, payload with
  | 1, high :: low :: _ => [high, low]
  | 2, high :: low :: _ :: _ => [high, low]
  | _, _ => []

variable {β : Type} [I2cPort β]

/-- Make an access. A read is given its part of the block, behind the status and the address. -/
def perform (block : Bytes) (port : β) : I2cAccess → Except I2cFault Unit × Bytes × β
  | configure frequency sda scl =>
    let (result, port) := I2cPort.configure port frequency sda scl
    (result, [], port)
  | write address data =>
    let (result, port) := I2cPort.write port address data
    (result, [], port)
  | read address count =>
    let slice := Bytes.slice block 3 count
    let (result, data, port) := I2cPort.read port address slice
    (result, Bytes.overlay slice 0 data, port)

end I2cAccess

namespace I2cPorts

variable {β : Type} [I2cPort β]

def bus (β : Type) [I2cPort β] (block : Bytes) : Bus I2cAccess I2cFault β where
  event := .i2c
  perform a port := a.perform block port
  code fault := if fault.isNack then 3 else 1

/-- Serve a request as it says: the three operations make the access that is asked for. -/
def conduct (m : I2cPorts β) (request : Message) (r : Reply) : Conduct β :=
  if request.operation.toNat ≤ 2 then
    (bus β r.draft.block).conduct m.ports request.channel.toNat
      (I2cAccess.asked? r.draft.block.length request.operation request.payload)
      (I2cAccess.echo request.operation request.payload) r.operation
  else
    ⟨[], .ok .notImplemented, r.operation, [], m.ports⟩

theorem mem_conduct (m : I2cPorts β) (request : Message) (r : Reply) (e : Event) :
    e ∈ (m.conduct request r).accesses ↔
      ∃ a, I2cAccess.asked? r.draft.block.length request.operation request.payload = some a ∧
        request.channel.toNat < m.ports.length ∧ e = .i2c request.channel.toNat a := by
  by_cases hop : request.operation.toNat ≤ 2
  · rw [conduct, if_pos hop]
    exact Bus.mem_accesses
  · have hnone : I2cAccess.asked? r.draft.block.length request.operation request.payload = none := by
      unfold I2cAccess.asked?
      split
      all_goals first | omega | rfl
    simp only [conduct, if_neg hop, hnone, List.not_mem_nil, reduceCtorEq, false_and, exists_false]

theorem reports (block : Bytes) : (bus β block).Reports report where
  access _ _ := rfl
  ok := rfl
  silent _ := rfl
  failed fault := by
    show (if fault.isNack then Status.slaveNotConnected else .unknownError) ≠ .ok
    split <;> decide
  code fault := by
    show (if fault.isNack then Status.slaveNotConnected else .unknownError).toByte = if fault.isNack then 3 else 1
    split <;> rfl

theorem configure_attempts (m : I2cPorts β) (channel : UInt8) (payload block : Bytes) (size : Nat) :
    let x := m.configure channel payload
    (bus β block).Attempts m.ports channel.toNat (I2cAccess.asked? size 0 payload) x.events x.value.1
      [] x.value.2.ports := by
  rcases hport : m.port? channel with _ | port
  · simp only [configure, hport]
    exact .refused (.inr hport) rfl
  · rcases payload with _ | ⟨clock, _ | ⟨sda, _ | ⟨scl, rest⟩⟩⟩
    case cons.cons.cons =>
      have hdecode : Payload.decode (clock :: sda :: scl :: rest) = .ok (⟨.ofByte clock, sda, scl⟩ : I2c.Config) := rfl
      simp only [configure, hport, hdecode]
      have hmade (frequency : Nat) (hasked : I2cAccess.asked? size 0 (clock :: sda :: scl :: rest) =
          some (.configure frequency (sda != 0) (scl != 0))) :=
        (reports block).attempts hasked hport [.notice (.i2cConfiguring channel frequency)] rfl
      by_cases h₁ : clock = 1
      · subst h₁
        exact hmade 100000 rfl
      · by_cases h₂ : clock = 2
        · subst h₂
          exact hmade 400000 rfl
        · have hclock : ClockSpeed.ofByte clock = .unsupported := by
            simp only [ClockSpeed.ofByte, if_neg h₁, if_neg h₂]
          have hnone : I2cAccess.asked? size 0 (clock :: sda :: scl :: rest) = none := by
            show (if clock = 1 then _ else if clock = 2 then _ else none) = none
            rw [if_neg h₁, if_neg h₂]
          rw [hclock]
          exact .refused (.inl hnone) rfl
    all_goals
      simp only [configure, hport]
      exact .refused (.inl rfl) rfl

/-- The address of a request, as seven bits. -/
theorem sevenBits?_half (high low : UInt8) :
    sevenBits? (.ofNat (Bytes.half high low)) = if Bytes.half high low ≤ 0x7f then some low else none := by
  have hlt := Bytes.half_lt high low
  have hvalue : (UInt16.ofNat (Bytes.half high low)).toNat = Bytes.half high low := UInt16.toNat_ofNat_of_lt' hlt
  have hle : UInt16.ofNat (Bytes.half high low) ≤ 0x7f ↔ Bytes.half high low ≤ 0x7f := by
    rw [UInt16.le_iff_toNat_le, hvalue]
    rfl
  by_cases hseven : Bytes.half high low ≤ 0x7f
  · have hlow : (UInt16.ofNat (Bytes.half high low)).toUInt8 = low := by
      apply UInt8.toNat_inj.mp
      rw [UInt16.toNat_toUInt8, hvalue]
      have hbyte := low.toNat_lt
      simp only [Bytes.half] at hseven ⊢
      omega
    rw [sevenBits?, if_pos (hle.mpr hseven), if_pos hseven, hlow]
  · rw [sevenBits?, if_neg (mt hle.mp hseven), if_neg hseven]

theorem write_attempts (m : I2cPorts β) (channel high low : UInt8) (data block : Bytes) (size : Nat) :
    let x := m.write channel ⟨.ofNat (Bytes.half high low), data⟩
    (bus β block).Attempts m.ports channel.toNat (I2cAccess.asked? size 1 (high :: low :: data)) x.events x.value.1 []
      x.value.2.ports := by
  have hasked : I2cAccess.asked? size 1 (high :: low :: data) =
    if Bytes.half high low ≤ 0x7f then some (.write low data) else none := rfl
  rcases hport : m.port? channel with _ | port
  · simp only [write, hport]
    exact .refused (.inr hport) rfl
  · simp only [write, hport, sevenBits?_half]
    by_cases hseven : Bytes.half high low ≤ 0x7f
    · rw [if_pos hseven] at hasked
      simp only [if_pos hseven]
      exact (reports block).attempts hasked hport [] rfl
    · rw [if_neg hseven] at hasked
      simp only [if_neg hseven]
      exact .refused (.inl hasked) rfl

theorem read_attempts (m : I2cPorts β) (channel high low count : UInt8) (rest block : Bytes) :
    let x := m.read channel (.ofNat (Bytes.half high low)) (block.slice? 3 count.toNat)
    (bus β block).Attempts m.ports channel.toNat (I2cAccess.asked? block.length 2 (high :: low :: count :: rest))
      x.events x.value.1 x.value.2.1 x.value.2.2.ports := by
  have hasked : I2cAccess.asked? block.length 2 (high :: low :: count :: rest) =
    if Bytes.half high low ≤ 0x7f ∧ count.toNat + 3 ≤ block.length then some (.read low count.toNat) else none := rfl
  rcases hport : m.port? channel with _ | port
  · simp only [read, hport]
    exact .refused (.inr hport) rfl
  · simp only [read, hport, sevenBits?_half, Bytes.slice?]
    by_cases hseven : Bytes.half high low ≤ 0x7f
    · by_cases hfit : count.toNat + 3 ≤ block.length
      · have hlength : (Bytes.slice block 3 count.toNat).length = count.toNat := by
          rw [Bytes.length_slice]
          omega
        rw [if_pos ⟨hseven, hfit⟩] at hasked
        simp only [if_pos hseven, if_pos hfit, hlength]
        exact (reports block).attempts hasked hport [] rfl
      · rw [if_neg fun h => hfit h.2] at hasked
        simp only [if_pos hseven, if_neg hfit]
        exact .refused (.inl hasked) rfl
    · rw [if_neg fun h => hseven h.1] at hasked
      simp only [if_neg hseven]
      exact .refused (.inl hasked) rfl

/-- What is read into a part of a block has the size of that part. -/
theorem length_read {m : I2cPorts β} {channel : UInt8} {address : UInt16} {block : Bytes} {offset count : Nat}
    (hok : (m.read channel address (block.slice? offset count)).value.1 = .ok) :
    (m.read channel address (block.slice? offset count)).value.2.1.length = count ∧ count + offset ≤ block.length := by
  rcases hport : m.port? channel with _ | port
  · simp only [read, hport] at hok
    cases hok
  rcases hseven : sevenBits? address with _ | low
  · simp only [read, hport, hseven] at hok
    cases hok
  rcases hslice : block.slice? offset count with _ | slice
  · simp only [read, hport, hseven, hslice] at hok
    cases hok
  · obtain ⟨hfit, hlength⟩ := Bytes.slice?_eq_some hslice
    simp only [read, hport, hseven]
    exact ⟨(Bytes.length_overlay _ _ _).trans hlength, hfit⟩

/-- A read is a reply in place. -/
theorem replyRead_inPlace (m : I2cPorts β) (channel : UInt8) (request : I2c.Read) (r : Reply) :
    m.replyRead channel request r = r.inPlace [wire Status.ok, wire request.address] [wire request.address]
      request.count.toNat m (m.read channel request.address) := by
  rcases hput : r.put [wire Status.ok, wire request.address] with ⟨_ | _, started⟩
  · simp only [replyRead, Reply.inPlace, hput]
  · simp only [replyRead, Reply.inPlace, hput, Reply.settle]
    apply bind_congr
    rintro ⟨status, data, m⟩
    by_cases hstatus : status = .ok
    · simp only [if_pos hstatus]
      cases (started.draft.fill data).advance request.count.toNat <;> rfl
    · simp only [if_neg hstatus]

/-- There are three operations. -/
theorem answer_other (m : I2cPorts β) {request : Message} (h : 2 < request.operation.toNat) (r : Reply) :
    m.answer request r = pure (.ok .notImplemented, r, m) := by
  have hne {operation : UInt8} (hle : operation.toNat ≤ 2) : request.operation ≠ operation := by
    intro heq
    rw [heq] at h
    omega
  rw [answer, if_neg (hne (by decide)), if_neg (hne (by decide)), if_neg (hne (by decide))]

/-- I2C ports serve every request as it says. -/
theorem handle_conduct (m : I2cPorts β) (request : Message) {r : Reply} (hblank : r.draft.length = 0)
    (hroom : 3 ≤ r.draft.block.length) :
    Conduct.seen I2cPorts.ports (Service.handle m request r) = m.conduct request r := by
  obtain ⟨component, operation, channel, payload⟩ := request
  show Conduct.seen I2cPorts.ports (m.answer _ r) = _
  have hnothing : 0 < r.draft.block.length := by omega
  have hbody (high low : UInt8) : [wire (UInt16.ofNat (Bytes.half high low))].flatten = [high, low] := by
    rw [List.flatten_singleton, Bytes.wire_ofNat_half]
  by_cases hother : 2 < operation.toNat
  · rw [m.answer_other hother, conduct, if_neg (Nat.not_le_of_lt hother)]
    exact Conduct.seen_unanswered I2cPorts.ports m hblank
  obtain hop | hop | hop : operation.toNat = 0 ∨ operation.toNat = 1 ∨ operation.toNat = 2 := by omega
  · obtain rfl : operation = 0 := UInt8.toNat_inj.mp hop
    exact Bus.seen_finish (m.configure_attempts channel payload r.draft.block _) hblank rfl hnothing
  · obtain rfl : operation = 1 := UInt8.toNat_inj.mp hop
    rcases payload with _ | ⟨high, _ | ⟨low, data⟩⟩
    · exact Bus.seen_refused (bus β r.draft.block) channel.toNat m rfl hblank hnothing
    · exact Bus.seen_refused (bus β r.draft.block) channel.toNat m rfl hblank hnothing
    · have hanswer : m.answer ⟨component, 1, channel, high :: low :: data⟩ r =
          r.finishAfter [wire (UInt16.ofNat (Bytes.half high low))]
            (m.write channel ⟨.ofNat (Bytes.half high low), data⟩) := by
        rw [← Bytes.value_half]
        rfl
      rw [hanswer]
      exact Bus.seen_finish (m.write_attempts channel high low data r.draft.block _) hblank (hbody high low) hroom
  · obtain rfl : operation = 2 := UInt8.toNat_inj.mp hop
    rcases payload with _ | ⟨high, _ | ⟨low, _ | ⟨count, rest⟩⟩⟩
    · exact Bus.seen_refused (bus β r.draft.block) channel.toNat m rfl hblank hnothing
    · exact Bus.seen_refused (bus β r.draft.block) channel.toNat m rfl hblank hnothing
    · exact Bus.seen_refused (bus β r.draft.block) channel.toNat m rfl hblank hnothing
    · have hanswer : m.answer ⟨component, 2, channel, high :: low :: count :: rest⟩ r =
          m.replyRead channel ⟨.ofNat (Bytes.half high low), count⟩ r := by
        rw [← Bytes.value_half]
        rfl
      rw [hanswer, replyRead_inPlace]
      exact Bus.seen_inPlace (m.read_attempts channel high low count rest r.draft.block) hblank
        (congrArg (0 :: ·) (hbody high low)) (hbody high low) hroom rfl length_read

end I2cPorts

/-! ## SPI ports -/

namespace SpiAccess

/-- The access that a request asks for, with so many bytes for the reply: settings within their limits, and no more
data than there is room for behind the status. -/
def asked? (size : Nat) (operation : UInt8) (payload : Bytes) : Option SpiAccess :=
  match operation.toNat, payload with
  | 1, bits :: order :: cpol :: cpha :: a :: b :: c :: d :: _ =>
    if 4 ≤ bits ∧ bits ≤ 16 ∧ (order = 0 ∨ order = 1) ∧ (cpol = 0 ∨ cpol = 1) ∧ (cpha = 0 ∨ cpha = 1) ∧
        Bytes.word a b c d ≠ 0 then
      some (.configure {
        dataBits := bits
        bitOrder := if order = 0 then .msbFirst else .lsbFirst
        polarity := if cpol = 0 then .idleLow else .idleHigh
        phase := if cpha = 0 then .firstTransition else .secondTransition
        frequency := .ofNat (Bytes.word a b c d) })
    else none
  | 2, high :: low :: _ => if Bytes.half high low + 1 ≤ size then some (.read (Bytes.half high low)) else none
  | 3, data => some (.write data)
  | 4, data => if data.length + 1 ≤ size then some (.transfer data) else none
  | _, _ => none

variable {β : Type} [SpiPort β]

/-- Make an access. A read is given its part of the block, behind the status; a transfer is given what it sends. -/
def perform (block : Bytes) (port : β) : SpiAccess → Except SpiFault Unit × Bytes × β
  | configure settings =>
    let (result, port) := SpiPort.configure port settings
    (result, [], port)
  | write data =>
    let (result, port) := SpiPort.write port data
    (result, [], port)
  | read count =>
    let slice := Bytes.slice block 1 count
    let (result, data, port) := SpiPort.read port slice
    (result, Bytes.overlay slice 0 data, port)
  | transfer data =>
    let (result, received, port) := SpiPort.transfer port data
    (result, Bytes.overlay data 0 received, port)

end SpiAccess

namespace Spi.Config

theorem ofNat_word_eq_zero (a b c d : UInt8) : UInt32.ofNat (Bytes.word a b c d) = 0 ↔ Bytes.word a b c d = 0 := by
  rw [← UInt32.toNat_inj, UInt32.toNat_ofNat_of_lt' (Bytes.word_lt a b c d)]
  rfl

/-- The settings that the bytes of a configuration ask for. -/
theorem settings?_bytes (bits order cpol cpha a b c d : UInt8) (size : Nat) (rest : Bytes) :
    ((⟨bits, .ofByte order, cpol, cpha, .ofNat (Bytes.word a b c d)⟩ : Spi.Config).settings?).map SpiAccess.configure =
      SpiAccess.asked? size 1 (bits :: order :: cpol :: cpha :: a :: b :: c :: d :: rest) := by
  show _ = if 4 ≤ bits ∧ bits ≤ 16 ∧ (order = 0 ∨ order = 1) ∧ (cpol = 0 ∨ cpol = 1) ∧ (cpha = 0 ∨ cpha = 1) ∧
    Bytes.word a b c d ≠ 0 then _ else none
  have hbaud := ofNat_word_eq_zero a b c d
  rw [settings?_eq]
  by_cases horder : order = 0 ∨ order = 1
  · have hknown : BitOrder.ofByte order = if order = 0 then .msbFirst else .lsbFirst := by
      rcases horder with rfl | rfl <;> rfl
    have hvalid : (if order = 0 then BitOrder.msbFirst else .lsbFirst) = .msbFirst ∨
        (if order = 0 then BitOrder.msbFirst else .lsbFirst) = .lsbFirst := by
      split <;> decide
    simp only [hknown, hvalid, horder, hbaud, ne_eq, true_and]
    split <;> rfl
  · have hinvalid : BitOrder.ofByte order = .invalid := by
      rw [not_or] at horder
      rw [BitOrder.ofByte, if_neg horder.1, if_neg horder.2]
    simp [horder, hinvalid]

end Spi.Config

namespace SpiPorts

variable {β : Type}

/-- Reads and transfers are replies in place. -/
theorem replyInPlace_inPlace (m : SpiPorts β) (count : Nat) (r : Reply)
    (access : Option Bytes → Trace (Status × Bytes × SpiPorts β)) :
    m.replyInPlace count r access = r.inPlace [wire Status.ok] [] count m access :=
  rfl

variable [SpiPort β]

def bus (β : Type) [SpiPort β] (block : Bytes) : Bus SpiAccess SpiFault β where
  event := .spi
  perform a port := a.perform block port
  code _ := 1

/-- Serve a request as it says: the first operation tells the number of ports, the other four make the access that is
asked for. -/
def conduct (m : SpiPorts β) (request : Message) (r : Reply) : Conduct β :=
  if request.operation = 0 then
    ⟨[], .ok .replied, r.operation, [0, .ofNat (min m.ports.length 255)], m.ports⟩
  else if request.operation.toNat ≤ 4 then
    (bus β r.draft.block).conduct m.ports request.channel.toNat
      (SpiAccess.asked? r.draft.block.length request.operation request.payload) [] r.operation
  else
    ⟨[], .ok .notImplemented, r.operation, [], m.ports⟩

theorem mem_conduct (m : SpiPorts β) (request : Message) (r : Reply) (e : Event) :
    e ∈ (m.conduct request r).accesses ↔
      ∃ a, SpiAccess.asked? r.draft.block.length request.operation request.payload = some a ∧
        request.channel.toNat < m.ports.length ∧ e = .spi request.channel.toNat a := by
  by_cases hop : 1 ≤ request.operation.toNat ∧ request.operation.toNat ≤ 4
  · have hfirst : request.operation ≠ 0 := by
      intro hzero
      rw [hzero] at hop
      exact absurd hop.1 (by decide)
    rw [conduct, if_neg hfirst, if_pos hop.2]
    exact Bus.mem_accesses
  · have hnone : SpiAccess.asked? r.draft.block.length request.operation request.payload = none := by
      unfold SpiAccess.asked?
      split
      all_goals first | omega | rfl
    have hempty : (m.conduct request r).accesses = [] := by
      rw [conduct]
      by_cases hzero : request.operation = 0
      · rw [if_pos hzero]
      · have hlarge : ¬request.operation.toNat ≤ 4 := by
          have hpositive := mt UInt8.toNat_inj.mp hzero
          change request.operation.toNat ≠ 0 at hpositive
          omega
        rw [if_neg hzero, if_neg hlarge]
    simp only [hempty, hnone, List.not_mem_nil, reduceCtorEq, false_and, exists_false]

theorem reports (block : Bytes) : (bus β block).Reports report where
  access _ _ := rfl
  ok := rfl
  silent _ := rfl
  failed _ := show Status.unknownError ≠ .ok by decide
  code _ := rfl

theorem configure_attempts (m : SpiPorts β) (channel : UInt8) (payload block : Bytes) (size : Nat) :
    let x := m.configure channel payload
    (bus β block).Attempts m.ports channel.toNat (SpiAccess.asked? size 1 payload) x.events x.value.1
      [] x.value.2.ports := by
  rcases hport : m.port? channel with _ | port
  · simp only [configure, hport]
    exact .refused (.inr hport) rfl
  · rcases payload with _ | ⟨bits, _ | ⟨order, _ | ⟨cpol, _ | ⟨cpha, _ | ⟨a, _ | ⟨b, _ | ⟨c, _ | ⟨d, rest⟩⟩⟩⟩⟩⟩⟩⟩
    case cons.cons.cons.cons.cons.cons.cons.cons =>
      have hasked := Spi.Config.settings?_bytes bits order cpol cpha a b c d size rest
      have hdecode : Payload.decode (bits :: order :: cpol :: cpha :: a :: b :: c :: d :: rest) =
          .ok (⟨bits, .ofByte order, cpol, cpha, .ofNat (Bytes.word a b c d)⟩ : Spi.Config) := by
        rw [← Bytes.value_word]
        rfl
      simp only [configure, hport, hdecode]
      cases hsettings : (⟨bits, .ofByte order, cpol, cpha, .ofNat (Bytes.word a b c d)⟩ : Spi.Config).settings? with
      | none =>
        rw [hsettings, Option.map_none] at hasked
        exact .refused (.inl hasked.symm) rfl
      | some settings =>
        rw [hsettings, Option.map_some] at hasked
        exact (reports block).attempts hasked.symm hport [.notice (.spiConfiguring channel settings)] rfl
    all_goals
      simp only [configure, hport]
      exact .refused (.inl rfl) rfl

theorem write_attempts (m : SpiPorts β) (channel : UInt8) (data block : Bytes) (size : Nat) :
    let x := m.write channel data
    (bus β block).Attempts m.ports channel.toNat (SpiAccess.asked? size 3 data) x.events x.value.1
      [] x.value.2.ports := by
  rcases hport : m.port? channel with _ | port
  · simp only [write, hport]
    exact .refused (.inr hport) rfl
  · simp only [write, hport]
    exact (reports block).attempts (a := .write data) rfl hport [] rfl

theorem read_attempts (m : SpiPorts β) (channel high low : UInt8) (rest block : Bytes) :
    let x := m.read channel (block.slice? 1 (Bytes.half high low))
    (bus β block).Attempts m.ports channel.toNat (SpiAccess.asked? block.length 2 (high :: low :: rest))
      x.events x.value.1 x.value.2.1 x.value.2.2.ports := by
  have hasked : SpiAccess.asked? block.length 2 (high :: low :: rest) =
    if Bytes.half high low + 1 ≤ block.length then some (.read (Bytes.half high low)) else none := rfl
  rcases hport : m.port? channel with _ | port
  · simp only [read, hport]
    exact .refused (.inr hport) rfl
  · simp only [read, hport, Bytes.slice?]
    by_cases hfit : Bytes.half high low + 1 ≤ block.length
    · have hlength : (Bytes.slice block 1 (Bytes.half high low)).length = Bytes.half high low := by
        rw [Bytes.length_slice]
        omega
      rw [if_pos hfit] at hasked
      simp only [if_pos hfit, hlength]
      exact (reports block).attempts hasked hport [] rfl
    · rw [if_neg hfit] at hasked
      simp only [if_neg hfit]
      exact .refused (.inl hasked) rfl

theorem transfer_attempts (m : SpiPorts β) (channel : UInt8) (data block : Bytes) :
    let x := m.transfer channel ((block.slice? 1 data.length).map fun _ => data)
    (bus β block).Attempts m.ports channel.toNat (SpiAccess.asked? block.length 4 data) x.events x.value.1 x.value.2.1
      x.value.2.2.ports := by
  have hasked : SpiAccess.asked? block.length 4 data =
    if data.length + 1 ≤ block.length then some (.transfer data) else none := rfl
  rcases hport : m.port? channel with _ | port
  · simp only [transfer, hport]
    exact .refused (.inr hport) rfl
  · simp only [transfer, hport, Bytes.slice?]
    by_cases hfit : data.length + 1 ≤ block.length
    · rw [if_pos hfit] at hasked
      simp only [if_pos hfit, Option.map_some]
      exact (reports block).attempts hasked hport [] rfl
    · rw [if_neg hfit] at hasked
      simp only [if_neg hfit, Option.map_none]
      exact .refused (.inl hasked) rfl

/-- What is read into a part of a block has the size of that part. -/
theorem length_read {m : SpiPorts β} {channel : UInt8} {block : Bytes} {offset count : Nat}
    (hok : (m.read channel (block.slice? offset count)).value.1 = .ok) :
    (m.read channel (block.slice? offset count)).value.2.1.length = count ∧ count + offset ≤ block.length := by
  rcases hport : m.port? channel with _ | port
  · simp only [read, hport] at hok
    cases hok
  rcases hslice : block.slice? offset count with _ | slice
  · simp only [read, hport, hslice] at hok
    cases hok
  · obtain ⟨hfit, hlength⟩ := Bytes.slice?_eq_some hslice
    simp only [read, hport]
    exact ⟨(Bytes.length_overlay _ _ _).trans hlength, hfit⟩

/-- What a transfer gives has the size of what was sent. -/
theorem length_transfer {m : SpiPorts β} {channel : UInt8} {data block : Bytes} {offset : Nat}
    (hok : (m.transfer channel ((block.slice? offset data.length).map fun _ => data)).value.1 = .ok) :
    (m.transfer channel ((block.slice? offset data.length).map fun _ => data)).value.2.1.length = data.length ∧
      data.length + offset ≤ block.length := by
  rcases hport : m.port? channel with _ | port
  · simp only [transfer, hport] at hok
    cases hok
  rcases hslice : block.slice? offset data.length with _ | slice
  · simp only [transfer, hport, hslice, Option.map_none] at hok
    cases hok
  · simp only [transfer, hport, Option.map_some]
    exact ⟨Bytes.length_overlay _ _ _, (Bytes.slice?_eq_some hslice).1⟩

/-- There are five operations. -/
theorem answer_other (m : SpiPorts β) {request : Message} (h : 4 < request.operation.toNat) (r : Reply) :
    m.answer request r = pure (.ok .notImplemented, r, m) := by
  have hne {operation : UInt8} (hle : operation.toNat ≤ 4) : request.operation ≠ operation := by
    intro heq
    rw [heq] at h
    omega
  rw [answer, if_neg (hne (by decide)), if_neg (hne (by decide)), if_neg (hne (by decide)), if_neg (hne (by decide)),
    if_neg (hne (by decide))]

/-- The number of channels takes two bytes. -/
theorem count_conduct (m : SpiPorts β) {request : Message} (hop : request.operation = 0) {r : Reply}
    (hblank : r.draft.length = 0) (hroom : 1 < r.draft.block.length) :
    Conduct.seen SpiPorts.ports (Service.handle m request r) = m.conduct request r := by
  have hanswer : Service.handle m request r =
      pure ((r.finish .ok [wire m.count]).1, (r.finish .ok [wire m.count]).2, m) := if_pos hop
  have hfit : [wire m.count].flatten.length < r.draft.block.length := hroom
  obtain ⟨draft, hfinish, hwritten⟩ := Reply.finish_blank hblank .ok hfit
  rw [hanswer, hfinish, conduct, if_pos hop]
  simp only [Conduct.seen, Trace.events_pure, Trace.value_pure, List.filter_nil, Reply.written, hwritten]
  rfl

/-- For all that is done with a port, a status has to fit. -/
theorem access_conduct (m : SpiPorts β) {request : Message} (hop : request.operation ≠ 0) {r : Reply}
    (hblank : r.draft.length = 0) (hroom : 0 < r.draft.block.length) :
    Conduct.seen SpiPorts.ports (Service.handle m request r) = m.conduct request r := by
  obtain ⟨component, operation, channel, payload⟩ := request
  show Conduct.seen SpiPorts.ports (m.answer _ r) = _
  by_cases hother : 4 < operation.toNat
  · rw [m.answer_other hother, conduct, if_neg hop, if_neg (Nat.not_le_of_lt hother)]
    exact Conduct.seen_unanswered SpiPorts.ports m hblank
  have hpositive : operation.toNat ≠ 0 := fun hzero => hop (UInt8.toNat_inj.mp hzero)
  obtain hop | hop | hop | hop : operation.toNat = 1 ∨ operation.toNat = 2 ∨ operation.toNat = 3 ∨
    operation.toNat = 4 := by omega
  · obtain rfl : operation = 1 := UInt8.toNat_inj.mp hop
    exact Bus.seen_finish (m.configure_attempts channel payload r.draft.block _) hblank rfl hroom
  · obtain rfl : operation = 2 := UInt8.toNat_inj.mp hop
    rcases payload with _ | ⟨high, _ | ⟨low, rest⟩⟩
    · exact Bus.seen_refused (bus β r.draft.block) channel.toNat m rfl hblank hroom
    · exact Bus.seen_refused (bus β r.draft.block) channel.toNat m rfl hblank hroom
    · have hcount : (UInt16.ofNat (Bytes.half high low)).toNat = Bytes.half high low :=
        UInt16.toNat_ofNat_of_lt' (Bytes.half_lt high low)
      have hanswer : m.answer ⟨component, 2, channel, high :: low :: rest⟩ r =
          m.replyInPlace (Bytes.half high low) r (m.read channel) := by
        rw [← hcount, ← Bytes.value_half]
        rfl
      rw [hanswer, replyInPlace_inPlace]
      exact Bus.seen_inPlace (m.read_attempts channel high low rest r.draft.block) hblank rfl rfl hroom rfl length_read
  · obtain rfl : operation = 3 := UInt8.toNat_inj.mp hop
    exact Bus.seen_finish (m.write_attempts channel payload r.draft.block _) hblank rfl hroom
  · obtain rfl : operation = 4 := UInt8.toNat_inj.mp hop
    show Conduct.seen SpiPorts.ports (m.replyInPlace payload.length r fun slice? =>
      m.transfer channel (slice?.map fun _ => payload)) = _
    rw [replyInPlace_inPlace]
    exact Bus.seen_inPlace (m.transfer_attempts channel payload r.draft.block) hblank rfl rfl hroom rfl length_transfer

/-- SPI ports serve every request as it says. -/
theorem handle_conduct (m : SpiPorts β) (request : Message) {r : Reply} (hblank : r.draft.length = 0)
    (hroom : 3 ≤ r.draft.block.length) :
    Conduct.seen SpiPorts.ports (Service.handle m request r) = m.conduct request r := by
  by_cases hop : request.operation = 0
  · exact m.count_conduct hop hblank (by omega)
  · exact m.access_conduct hop hblank (by omega)

end SpiPorts

/-! ## All requests -/

/-- Whatever a request is, ports make the access that it asks for, if there is a port for it, and no other access, and
they reply with how it ended. -/
theorem ports_conduct {β γ : Type} [I2cPort β] [SpiPort γ] (i2c : I2cPorts β) (spi : SpiPorts γ) (request : Message)
    (r : Reply) (hblank : r.draft.length = 0) (hroom : 3 ≤ r.draft.block.length) :
    (Conduct.seen I2cPorts.ports (Service.handle i2c request r) = i2c.conduct request r ∧
      ∀ e, e ∈ (Service.handle i2c request r).events ∧ e.isAccess ↔
        ∃ a, I2cAccess.asked? r.draft.block.length request.operation request.payload = some a ∧
          request.channel.toNat < i2c.ports.length ∧ e = .i2c request.channel.toNat a) ∧
    Conduct.seen SpiPorts.ports (Service.handle spi request r) = spi.conduct request r ∧
      ∀ e, e ∈ (Service.handle spi request r).events ∧ e.isAccess ↔
        ∃ a, SpiAccess.asked? r.draft.block.length request.operation request.payload = some a ∧
          request.channel.toNat < spi.ports.length ∧ e = .spi request.channel.toNat a := by
  have hi2c := i2c.handle_conduct request hblank hroom
  have hspi := spi.handle_conduct request hblank hroom
  refine ⟨⟨hi2c, fun e => ?_⟩, hspi, fun e => ?_⟩
  · rw [← i2c.mem_conduct request r e, ← hi2c]
    exact List.mem_filter.symm
  · rw [← spi.mem_conduct request r e, ← hspi]
    exact List.mem_filter.symm

/-- A read that is asked for, and settings with words of 17 bits. -/
theorem ports_conduct_sensor :
    (let i2c : I2cPorts Bench.I2cSim := ⟨[⟨[⟨0x23, [7, 8], none⟩], none⟩]⟩
     Conduct.seen I2cPorts.ports (Service.handle i2c ⟨1, 2, 0, [0, 0x23, 2]⟩ (.start 2 (List.replicate 5 0xee))) =
       ⟨[.i2c 0 (.read 0x23 2)], .ok .replied, 0x82, [0, 0, 0x23, 7, 8], i2c.ports⟩) ∧
    (let spi : SpiPorts Bench.SpiSim := ⟨[⟨none, none⟩]⟩
     Conduct.seen SpiPorts.ports
         (Service.handle spi ⟨2, 1, 0, [17, 0, 0, 0, 0, 0, 0, 9]⟩ (.start 1 (List.replicate 3 0xee))) =
       ⟨[], .ok .replied, 0x81, [2], spi.ports⟩) := by
  refine ⟨?_, ?_⟩
  · intro i2c
    exact (ports_conduct i2c (⟨[]⟩ : SpiPorts Bench.SpiSim) ⟨1, 2, 0, [0, 0x23, 2]⟩ _ rfl (by decide)).1.1
  · intro spi
    exact (ports_conduct (⟨[]⟩ : I2cPorts Bench.I2cSim) spi ⟨2, 1, 0, [17, 0, 0, 0, 0, 0, 0, 9]⟩ _ rfl (by decide)).2.1

end BusBridge

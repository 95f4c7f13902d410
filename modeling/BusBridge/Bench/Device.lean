import BusBridge.Bench.DraftOp
import BusBridge.Service.Board
import BusBridge.Service.I2cPorts
import BusBridge.Service.SpiPorts
/-!
# Simulated services

Ports with simulated hardware behind them, and a service that follows a script.
-/

namespace BusBridge.Bench

/-- A slave on a simulated I2C bus. -/
structure Slave where
  address : Nat
  /-- what a read gives, over and over -/
  data : Bytes
  /-- how every access ends, after the data was transferred -/
  fault : Option I2cFault

/-- A simulated I2C port. -/
structure I2cSim where
  slaves : List Slave
  configFault : Option I2cFault

namespace I2cSim

def ending : Option I2cFault → Except I2cFault Unit
  | none => .ok ()
  | some fault => .error fault

/-- `data` over and over, as many bytes as the slice has. -/
def cycle (data slice : Bytes) : Bytes :=
  if data.isEmpty then slice else slice.mapIdx fun i _ => data.getD (i % data.length) 0

def slave? (p : I2cSim) (address : UInt8) : Option Slave :=
  p.slaves.find? fun s => s.address == address.toNat

instance : I2cPort I2cSim where
  configure p _ _ _ := (ending p.configFault, p)
  write p address _ :=
    match p.slave? address with
    | some s => (ending s.fault, p)
    | none => (.error .nackAddress, p)
  read p address slice :=
    match p.slave? address with
    | some s => (ending s.fault, cycle s.data slice, p)
    | none => (.error .nackAddress, slice, p)

end I2cSim

/-- A simulated SPI port: words read count up from 0, a transfer complements every byte. -/
structure SpiSim where
  fault : Option SpiFault
  configFault : Option SpiFault

namespace SpiSim

def ending : Option SpiFault → Except SpiFault Unit
  | none => .ok ()
  | some fault => .error fault

instance : SpiPort SpiSim where
  configure p _ := (ending p.configFault, p)
  write p _ := (ending p.fault, p)
  read p slice := (ending p.fault, slice.mapIdx fun i _ => UInt8.ofNat i, p)
  transfer p slice := (ending p.fault, slice.map fun b => ~~~b, p)

end SpiSim

/-- What a scripted service does while it writes a reply. -/
inductive ReplyOp where
  | draft (op : DraftOp)
  | setOperation (operation : UInt8)

/-- How a scripted service takes one request. -/
structure ReplyScript where
  ops : List ReplyOp
  outcome : Outcome

namespace ReplyScript

/-- Apply operations up to the first that does not fit. -/
def write : List ReplyOp → Reply → Except CapacityError Unit × Reply
  | [], reply => (.ok (), reply)
  | .setOperation operation :: rest, reply => write rest { reply with operation }
  | .draft op :: rest, reply =>
    match reply.draft.apply op with
    | (.ok _, draft) => write rest { reply with draft }
    | (.error e, draft) => (.error e, { reply with draft })

end ReplyScript

/-- The services of a simulated bridge. -/
inductive Device where
  | board (b : Board)
  | i2c (ports : I2cPorts I2cSim)
  | spi (ports : SpiPorts SpiSim)
  /-- one script for each request -/
  | scripted (scripts : List ReplyScript)

namespace Device

/-- The text of a message in remarks. -/
def describe (m : Message) : String :=
  s!"{m.component.toNat} {m.operation.toNat} {m.channel.toNat} {Hex.compact m.payload}"

def followScript (scripts : List ReplyScript) (request : Message) (reply : Reply) :
    Trace (Except CapacityError Outcome × Reply × List ReplyScript) := do
  emit (.remark s!"handle {request.operation.toNat} {request.channel.toNat} {Hex.compact request.payload}")
  match scripts with
  | [] => pure (.ok .notImplemented, reply, [])
  | script :: rest =>
    let (result, reply) := ReplyScript.write script.ops reply
    pure (result.map fun _ => script.outcome, reply, rest)

instance : Service Device where
  handle d request reply := do
    match d with
    | board b =>
      let (outcome, reply, b) ← Service.handle b request reply
      pure (outcome, reply, board b)
    | i2c ports =>
      let (outcome, reply, ports) ← Service.handle ports request reply
      pure (outcome, reply, i2c ports)
    | spi ports =>
      let (outcome, reply, ports) ← Service.handle ports request reply
      pure (outcome, reply, spi ports)
    | scripted scripts =>
      let (outcome, reply, scripts) ← followScript scripts request reply
      pure (outcome, reply, scripted scripts)

end Device

end BusBridge.Bench

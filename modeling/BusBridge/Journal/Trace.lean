import BusBridge.Journal.Notice
/-!
# Events and traces

A `Trace` is what a piece of work gives: the events that happened on the way, in order, and its
value. The state that the work changes is an argument and a part of its value, never hidden.
-/

namespace BusBridge

/-- Everything that can be observed from outside, apart from the bytes on the line. -/
inductive Event where
  | notice (n : Notice)
  /-- a block of so many bytes is armed for reception -/
  | armReceive (size : Nat)
  /-- a block of so many bytes is armed for emission -/
  | armSend (size : Nat)
  | cancelSend
  /-- the bridge waits -/
  | delay (milliseconds : UInt32)
  | i2c (port : Nat) (access : I2cAccess)
  | spi (port : Nat) (access : SpiAccess)
  /-- bytes are handed to a served bus -/
  | wrote (bytes : Bytes)
  /-- a served bus is flushed -/
  | flushed
  /-- a word from a handler or a service of the user -/
  | remark (text : String)
deriving DecidableEq, Repr

namespace Event

/-- The event is a call to the medium under an endpoint. -/
def isArming : Event → Bool
  | armReceive _ | armSend _ | cancelSend => true
  | _ => false

/-- The text of an event, or nothing for a notice below the given importance. -/
def text? (verbosity : Option Level) : Event → Option String
  | notice n =>
    match verbosity with
    | some l => if n.level.rank ≤ l.rank then some s!"{n.level.name} {n.text}" else none
    | none => none
  | armReceive size => some s!"receive_block {size}"
  | armSend size => some s!"send_block {size}"
  | cancelSend => some "cancel_send"
  | delay milliseconds => some s!"delay_ms {milliseconds.toNat}"
  | i2c port access => some s!"i2c{port} {access.text}"
  | spi port access => some s!"spi{port} {access.text}"
  | wrote bytes => some s!"write {Hex.compact bytes}"
  | flushed => some "flush"
  | remark text => some text

end Event

/-- Events, then a value. -/
@[ext] structure Trace (α : Type) where
  events : List Event
  value : α

namespace Trace

variable {α β : Type}

protected def pure (a : α) : Trace α :=
  ⟨[], a⟩

protected def bind (x : Trace α) (f : α → Trace β) : Trace β :=
  let y := f x.value
  ⟨x.events ++ y.events, y.value⟩

instance : Monad Trace where
  pure := Trace.pure
  bind := Trace.bind

@[simp] theorem events_pure (a : α) : (pure a : Trace α).events = [] := rfl

@[simp] theorem value_pure (a : α) : (pure a : Trace α).value = a := rfl

@[simp] theorem events_bind (x : Trace α) (f : α → Trace β) :
    (x >>= f).events = x.events ++ (f x.value).events := rfl

@[simp] theorem value_bind (x : Trace α) (f : α → Trace β) : (x >>= f).value = (f x.value).value := rfl

theorem bind_assoc {γ : Type} (x : Trace α) (f : α → Trace β) (g : β → Trace γ) :
    (x.bind f).bind g = x.bind fun a => (f a).bind g := by
  simp [Trace.bind]

instance : LawfulMonad Trace :=
  LawfulMonad.mk' Trace (fun x => by simp [Functor.map, Trace.bind, Trace.pure])
    (fun _ _ => by simp [pure, bind, Trace.pure, Trace.bind]) bind_assoc

end Trace

def emit (e : Event) : Trace Unit :=
  ⟨[e], ()⟩

def note (n : Notice) : Trace Unit :=
  emit (.notice n)

end BusBridge

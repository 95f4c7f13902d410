import BusBridge.Journal.Fault
import BusBridge.Journal.Trace
/-!
# Runs

A run is work that can break a rule of use, such as sending while a frame is still being sent. It
gives its events and then its result, or the fault that stopped it; the events before a fault are
kept. Work that breaks no rule, a `Trace`, is a part of a run.
-/

namespace BusBridge

/-- Events, then a result or the fault that stopped the work. -/
@[ext] structure Run (α : Type) where
  events : List Event
  result : Except Fault α

namespace Run

variable {α β : Type}

protected def pure (a : α) : Run α :=
  ⟨[], .ok a⟩

protected def bind (x : Run α) (f : α → Run β) : Run β :=
  match x.result with
  | .error e => ⟨x.events, .error e⟩
  | .ok a =>
    let y := f a
    ⟨x.events ++ y.events, y.result⟩

instance : Monad Run where
  pure := Run.pure
  bind := Run.bind

theorem id_map (x : Run α) : id <$> x = x := by
  obtain ⟨events, result⟩ := x
  cases result <;> simp [Functor.map, Run.bind, Run.pure]

theorem bind_assoc {γ : Type} (x : Run α) (f : α → Run β) (g : β → Run γ) :
    (x.bind f).bind g = x.bind fun a => (f a).bind g := by
  obtain ⟨events, result⟩ := x
  cases result with
  | error e => rfl
  | ok a =>
    simp only [Run.bind]
    cases (f a).result <;> simp [List.append_assoc]

instance : LawfulMonad Run :=
  LawfulMonad.mk' Run id_map (fun _ _ => by simp [pure, bind, Run.pure, Run.bind]) bind_assoc

/-- Work that breaks no rule. -/
def ofTrace (t : Trace α) : Run α :=
  ⟨t.events, .ok t.value⟩

instance : MonadLift Trace Run where
  monadLift := ofTrace

instance : LawfulMonadLift Trace Run where
  monadLift_pure _ := rfl
  monadLift_bind _ _ := rfl

/-- Stop the work. -/
def stop (f : Fault) : Run α :=
  ⟨[], .error f⟩

/-- The same work, with a fault as a value. -/
def attempt (x : Run α) : Trace (Except Fault α) :=
  ⟨x.events, x.result⟩

/-- The same work with some of its events left out. -/
def keeping (keep : Event → Bool) (x : Run α) : Run α :=
  ⟨x.events.filter keep, x.result⟩

end Run

end BusBridge

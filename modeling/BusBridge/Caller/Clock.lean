import BusBridge.Journal.Duration
import BusBridge.Journal.Run
/-!
# The clock of a blocking call

A blocking call reads its clock when it begins, adds the timeout, and looks at the clock again after each poll that did
not end it. A clock tells moments in milliseconds up to a last one. A deadline beyond that cannot be told, and the call
stops before it does anything.
-/

namespace BusBridge

/-- What a clock shows during a call. -/
structure Clock where
  /-- the moment at which the call begins -/
  start : Nat
  /-- the moment at each look -/
  look : Nat → Nat
  /-- the last moment that the clock can tell -/
  last : Nat

namespace Clock

/-- A clock of 63 bits of seconds on which a call begins at nought, with what it shows at each look. -/
def showing (look : Nat → Nat) : Clock :=
  ⟨0, look, 9223372036854775807000⟩

/-- The moment at which a timeout is over that begins with the call. -/
def deadline (clock : Clock) (timeout : Duration) : Nat :=
  clock.start + timeout.milliseconds

/-- The clock can tell when the timeout is over. -/
def Tells (clock : Clock) (timeout : Duration) : Prop :=
  clock.deadline timeout ≤ clock.last

instance {clock : Clock} {timeout : Duration} : Decidable (clock.Tells timeout) :=
  inferInstanceAs (Decidable (_ ≤ _))

/-- Whether the timeout is over at the `k`-th look. -/
def late (clock : Clock) (timeout : Duration) (k : Nat) : Bool :=
  clock.deadline timeout ≤ clock.look k

/-- Work up to a deadline, that is told what each look at the clock shows. -/
def within {α : Type} (clock : Clock) (timeout : Duration) (work : (Nat → Bool) → Run α) : Run α :=
  if clock.Tells timeout then work (clock.late timeout) else Run.stop .noDeadline

variable {α : Type} {clock : Clock} {timeout : Duration} {work : (Nat → Bool) → Run α}

theorem within_tells (h : clock.Tells timeout) : clock.within timeout work = work (clock.late timeout) :=
  if_pos h

theorem within_untold (h : ¬clock.Tells timeout) : clock.within timeout work = Run.stop .noDeadline :=
  if_neg h

/-- Work that came to a result was within a deadline that the clock could tell. -/
theorem within_ok {a : α} (h : (clock.within timeout work).result = .ok a) :
    clock.Tells timeout ∧ (work (clock.late timeout)).result = .ok a := by
  unfold within at h
  split at h
  next htells => exact ⟨htells, h⟩
  next => cases h

end Clock

end BusBridge

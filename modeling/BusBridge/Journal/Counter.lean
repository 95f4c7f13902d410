/-!
# Counters

A counter counts up to the largest number of 32 bits and stays there. After `k` increments it shows one clamp of the
sum (`Counter.value_plus`), however the increments are grouped (`Counter.plus_plus`), so it is exact up to its largest
value and never wraps.
-/

namespace BusBridge

/-- The number at which a counter stays. -/
def Counter.largest : Nat := 4294967295

structure Counter where
  value : Nat
  value_le : value ≤ Counter.largest
deriving DecidableEq, Repr

namespace Counter

/-- The counter after so many increments. -/
def plus (c : Counter) (count : Nat) : Counter :=
  ⟨min (c.value + count) largest, Nat.min_le_right _ _⟩

/-- A new counter after so many increments. -/
def of (count : Nat) : Counter :=
  ⟨min count largest, Nat.min_le_right _ _⟩

instance {count : Nat} : OfNat Counter count where
  ofNat := of count

theorem value_plus (c : Counter) (count : Nat) : (c.plus count).value = min (c.value + count) largest := rfl

theorem value_of (count : Nat) : (of count).value = min count largest := rfl

@[ext] theorem ext {c d : Counter} (h : c.value = d.value) : c = d := by
  obtain ⟨_, _⟩ := c
  cases h
  rfl

@[simp] theorem plus_zero (c : Counter) : c.plus 0 = c :=
  ext (Nat.min_eq_left c.value_le)

@[simp] theorem plus_plus (c : Counter) (first second : Nat) :
    (c.plus first).plus second = c.plus (first + second) := by
  refine ext ?_
  simp only [value_plus]
  omega

@[simp] theorem of_plus (first second : Nat) : (of first).plus second = of (first + second) := by
  refine ext ?_
  simp only [value_plus, value_of]
  omega

@[simp] theorem zero_plus (count : Nat) : (0 : Counter).plus count = of count := by
  refine ext ?_
  show min (min 0 largest + count) largest = min count largest
  omega

/-- A counter is exact as long as it can show the number. -/
theorem value_of_eq_iff {count : Nat} : (of count).value = count ↔ count ≤ largest := by
  rw [value_of]
  omega

end Counter

end BusBridge

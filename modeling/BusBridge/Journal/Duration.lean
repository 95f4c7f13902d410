/-!
# Durations

A duration counts milliseconds. Its text uses the largest of the units second, millisecond and
nanosecond that is not longer than the duration, with as many decimals as it takes.
-/

namespace BusBridge

structure Duration where
  milliseconds : Nat
deriving DecidableEq, Repr

namespace Duration

/-- The decimals of `n` thousandths, without trailing zeros. -/
def decimals (n : Nat) : String :=
  if n % 1000 = 0 then ""
  else if n % 100 = 0 then s!".{n % 1000 / 100}"
  else if n % 10 = 0 then s!".{n % 1000 / 100}{n % 100 / 10}"
  else s!".{n % 1000 / 100}{n % 100 / 10}{n % 10}"

def text (d : Duration) : String :=
  if d.milliseconds = 0 then "0ns"
  else if d.milliseconds < 1000 then s!"{d.milliseconds}ms"
  else s!"{d.milliseconds / 1000}{decimals d.milliseconds}s"

end Duration

end BusBridge

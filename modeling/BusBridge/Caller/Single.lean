/-!
# Ratios in single precision

`Single.ofRatio num den` is the bit pattern of the single precision number nearest to `num / den`,
the even one of two that are equally near. It is meant for ratios in the range of normal numbers.
Powers of two are shifts: `n <<< k` is `n` times the `k`-th power of two.
-/

namespace BusBridge.Single

/-- Bits of the fraction. -/
def fractionBits : Nat := 23

/-- The exponent field of the numbers from one to two. -/
def bias : Int := 127

/-- The integer nearest to `num / den`, the even one of two that are equally near. -/
def nearest (num den : Nat) : Nat :=
  let quotient := num / den
  let twice := 2 * (num % den)
  if twice < den ∨ (twice = den ∧ quotient % 2 = 0) then quotient else quotient + 1

/-- The exponent of the largest power of two that is not above `num / den`, of a ratio that is not
zero. -/
def exponent (num den : Nat) : Int :=
  let e : Int := (num.log2 : Int) - den.log2
  if den <<< e.toNat ≤ num <<< (-e).toNat then e else e - 1

/-- Bits of the nearest number. Rounding up to the next power of two carries into the exponent. -/
def ofRatio (num den : Nat) : UInt32 :=
  if num = 0 ∨ den = 0 then 0
  else
    let e := exponent num den
    let scale := fractionBits - e
    let significand := nearest (num <<< scale.toNat) (den <<< (-scale).toNat)
    UInt32.ofNat ((e + bias).toNat <<< fractionBits + (significand - 1 <<< fractionBits))

end BusBridge.Single

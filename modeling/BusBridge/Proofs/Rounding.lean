import Mathlib
import BusBridge.Caller.LightMeter
/-!
# Rounding to single precision

The value of a bit pattern is a rational number (`Single.value`), so that the nearest one is a matter of comparing
distances (`Single.Rounds`). A ratio in the range of normal numbers lies between two powers of two, and the numbers from
the lower one on are multiples of a unit. The nearest multiple is nearest among all numbers, since those below the lower
power of two are farther away than that power itself.
-/

namespace BusBridge.Single

/-- The first bit pattern that is no finite number. -/
def infinity : Nat := 255 * 2 ^ fractionBits

/-- The value of a finite number that is not negative. -/
def value (bits : UInt32) : ℚ :=
  let field := bits.toNat / 2 ^ fractionBits
  let fraction := bits.toNat % 2 ^ fractionBits
  if field = 0 then fraction * 2 ^ (-149 : ℤ) else (2 ^ fractionBits + fraction : Nat) * 2 ^ ((field : ℤ) - 150)

/-- The number is as near as any other one, and the even one of two that are equally near. -/
structure Rounds (x : ℚ) (bits : UInt32) : Prop where
  finite : bits.toNat < infinity
  nearest (other : UInt32) : other.toNat < infinity → |value bits - x| ≤ |value other - x|
  even (other : UInt32) : other.toNat < infinity → other ≠ bits → |value other - x| = |value bits - x| →
    bits.toNat % 2 = 0

/-! ## The nearest integer -/

variable {num den : Nat}

/-- How far a multiple of the denominator is from the numerator. -/
def off (num den k : Nat) : Nat :=
  ((k * den : Nat) - num : ℤ).natAbs

theorem abs_sub_ratio (hden : 0 < den) (k : Nat) : |(k : ℚ) - num / den| = off num den k / den := by
  have hpos : (0 : ℚ) < den := Nat.cast_pos.mpr hden
  have hoff : ((off num den k : Nat) : ℚ) = |(k : ℚ) * den - num| := by
    rw [off, Nat.cast_natAbs]
    push_cast
    rfl
  have hone : (k : ℚ) - num / den = (k * den - num) / den := by field_simp
  rw [hone, hoff, abs_div, abs_of_pos hpos]

/-- The nearest integer is not farther away than any other one, and even if another one is as near. -/
theorem off_nearest (hden : 0 < den) (k : Nat) : off num den (nearest num den) ≤ off num den k ∧
    (k ≠ nearest num den → off num den k = off num den (nearest num den) → nearest num den % 2 = 0) := by
  have hdiv : num / den * den + num % den = num := by
    rw [Nat.mul_comm]
    exact Nat.div_add_mod num den
  have hrest : num % den < den := Nat.mod_lt num hden
  have hnext : (num / den + 1) * den = num / den * den + den := Nat.succ_mul _ _
  -- the multiples of the denominator next to the numerator, and how they compare to this one
  have hplace : k = num / den ∨ k = num / den + 1 ∨ k * den + den ≤ num / den * den ∨
      num / den * den + 2 * den ≤ k * den := by
    obtain hless | hequal | hmore := Nat.lt_trichotomy k (num / den)
    · refine .inr (.inr (.inl ?_))
      rw [← Nat.succ_mul]
      exact Nat.mul_le_mul_right den hless
    · exact .inl hequal
    · obtain hone | htwo := Nat.eq_or_lt_of_le (Nat.succ_le_of_lt hmore)
      · exact .inr (.inl hone.symm)
      · refine .inr (.inr (.inr ?_))
        rw [← Nat.add_mul]
        exact Nat.mul_le_mul_right den htwo
  unfold off nearest
  generalize num / den = quotient at *
  generalize num % den = rest at *
  dsimp only
  split
  next hlow =>
    rcases hplace with rfl | rfl | hfar | hfar <;> omega
  next hhigh =>
    rcases hplace with rfl | rfl | hfar | hfar <;> omega

theorem abs_nearest_le (hden : 0 < den) (k : Nat) : |(nearest num den : ℚ) - num / den| ≤ |(k : ℚ) - num / den| := by
  rw [abs_sub_ratio hden, abs_sub_ratio hden]
  exact div_le_div_of_nonneg_right (Nat.cast_le.mpr (off_nearest hden k).1) (Nat.cast_nonneg den)

theorem nearest_even (hden : 0 < den) {k : Nat} (hk : k ≠ nearest num den)
    (htie : |(k : ℚ) - num / den| = |(nearest num den : ℚ) - num / den|) : nearest num den % 2 = 0 := by
  have hpos : (den : ℚ) ≠ 0 := Nat.cast_ne_zero.mpr hden.ne'
  rw [abs_sub_ratio hden, abs_sub_ratio hden, div_left_inj' hpos] at htie
  exact (off_nearest hden k).2 hk (Nat.cast_inj.mp htie)

/-- The nearest integer is between two others if the ratio is. -/
theorem nearest_between (hden : 0 < den) {a b : Nat} (ha : (a : ℚ) ≤ num / den) (hb : (num : ℚ) / den ≤ b) :
    a ≤ nearest num den ∧ nearest num den ≤ b := by
  have hbelow := @abs_nearest_le num den hden a
  have habove := @abs_nearest_le num den hden b
  rw [abs_sub_comm (a : ℚ), abs_of_nonneg (sub_nonneg.mpr ha), abs_le] at hbelow
  rw [abs_of_nonneg (sub_nonneg.mpr hb), abs_le] at habove
  refine ⟨?_, ?_⟩
  · have hle : (a : ℚ) ≤ nearest num den := by linarith
    exact_mod_cast hle
  · have hle : (nearest num den : ℚ) ≤ b := by linarith
    exact_mod_cast hle

/-! ## Powers of two -/

theorem two_pow_toNat (e : ℤ) : (2 : ℚ) ^ e.toNat = 2 ^ e * 2 ^ (-e).toNat := by
  rw [← zpow_natCast, ← zpow_natCast, ← zpow_add₀ two_ne_zero]
  congr 1
  omega

theorem shift_ratio (num den : Nat) (e : ℤ) :
    ((num <<< e.toNat : Nat) : ℚ) / (den <<< (-e).toNat : Nat) = num / den * 2 ^ e := by
  have hpos : (2 : ℚ) ^ (-e).toNat ≠ 0 := pow_ne_zero _ two_ne_zero
  rw [Nat.shiftLeft_eq, Nat.shiftLeft_eq]
  push_cast
  rw [two_pow_toNat, ← mul_assoc, mul_div_mul_right _ _ hpos, mul_div_right_comm]

theorem log2_bounds {a : Nat} (ha : 0 < a) : (2 : ℚ) ^ (a.log2 : ℤ) ≤ a ∧ (a : ℚ) < 2 ^ ((a.log2 : ℤ) + 1) := by
  refine ⟨?_, ?_⟩
  · exact_mod_cast Nat.log2_self_le ha.ne'
  · exact_mod_cast Nat.lt_log2_self (n := a)

theorem shift_le_iff (hden : 0 < den) (e : ℤ) :
    den <<< e.toNat ≤ num <<< (-e).toNat ↔ (2 : ℚ) ^ e ≤ num / den := by
  have hpos : (0 : ℚ) < den := Nat.cast_pos.mpr hden
  have hscale : (0 : ℚ) < 2 ^ (-e).toNat := pow_pos two_pos _
  have hcast : den <<< e.toNat ≤ num <<< (-e).toNat ↔ (den * 2 ^ e * 2 ^ (-e).toNat : ℚ) ≤ num * 2 ^ (-e).toNat := by
    rw [mul_assoc, ← two_pow_toNat, Nat.shiftLeft_eq, Nat.shiftLeft_eq]
    exact_mod_cast Iff.rfl
  rw [hcast, mul_le_mul_iff_left₀ hscale, le_div_iff₀ hpos, mul_comm]

/-- A ratio lies between the powers of two of its exponent and the next one. -/
theorem exponent_spec (hnum : 0 < num) (hden : 0 < den) :
    (2 : ℚ) ^ exponent num den ≤ num / den ∧ (num : ℚ) / den < 2 ^ (exponent num den + 1) := by
  have hpos : (0 : ℚ) < den := Nat.cast_pos.mpr hden
  obtain ⟨hnum_le, hnum_lt⟩ := log2_bounds hnum
  obtain ⟨hden_le, hden_lt⟩ := log2_bounds hden
  -- the lengths of the two numbers leave two powers of two to choose from
  have hbelow : (num : ℚ) / den < 2 ^ ((num.log2 : ℤ) - den.log2 + 1) := by
    rw [div_lt_iff₀ hpos]
    calc (num : ℚ) < 2 ^ ((num.log2 : ℤ) + 1) := hnum_lt
      _ = 2 ^ ((num.log2 : ℤ) - den.log2 + 1) * 2 ^ (den.log2 : ℤ) := by
        rw [← zpow_add₀ two_ne_zero]
        congr 1
        omega
      _ ≤ 2 ^ ((num.log2 : ℤ) - den.log2 + 1) * den := by gcongr
  have habove : (2 : ℚ) ^ ((num.log2 : ℤ) - den.log2 - 1) ≤ num / den := by
    rw [le_div_iff₀ hpos]
    calc (2 : ℚ) ^ ((num.log2 : ℤ) - den.log2 - 1) * den
        ≤ 2 ^ ((num.log2 : ℤ) - den.log2 - 1) * 2 ^ ((den.log2 : ℤ) + 1) := by gcongr
      _ = 2 ^ (num.log2 : ℤ) := by
        rw [← zpow_add₀ two_ne_zero]
        congr 1
        omega
      _ ≤ num := hnum_le
  unfold exponent
  dsimp only
  split
  next hle => exact ⟨(shift_le_iff hden _).mp hle, hbelow⟩
  next hlt =>
    rw [shift_le_iff hden, not_le] at hlt
    refine ⟨habove, ?_⟩
    rwa [sub_add_cancel]

theorem mul_two_zpow_lt {m n : Nat} {a b : ℤ} (hm : m < 2 ^ n) (hexp : n + a ≤ b) : (m : ℚ) * 2 ^ a < 2 ^ b :=
  calc (m : ℚ) * 2 ^ a < 2 ^ (n : ℤ) * 2 ^ a := by
        gcongr
        exact_mod_cast hm
    _ = 2 ^ (n + a) := (zpow_add₀ two_ne_zero _ _).symm
    _ ≤ 2 ^ b := zpow_le_zpow_right₀ one_le_two hexp

/-- In units of its last place a number has a significand of one place more than the fraction. -/
theorem scaled_bounds {x : ℚ} {e : ℤ} (hle : 2 ^ e ≤ x) (hlt : x < 2 ^ (e + 1)) (places : Nat) :
    ((2 ^ places : Nat) : ℚ) ≤ x * 2 ^ (places - e) ∧ x * 2 ^ (places - e) ≤ (2 * 2 ^ places : Nat) := by
  have hunit : (0 : ℚ) < 2 ^ (places - e) := zpow_pos two_pos _
  refine ⟨?_, ?_⟩
  · calc ((2 ^ places : Nat) : ℚ) = 2 ^ e * 2 ^ (places - e) := by
          rw [← zpow_add₀ two_ne_zero, add_sub_cancel, zpow_natCast, Nat.cast_pow, Nat.cast_ofNat]
      _ ≤ x * 2 ^ (places - e) := mul_le_mul_of_nonneg_right hle hunit.le
  · calc x * 2 ^ (places - e) ≤ 2 ^ (e + 1) * 2 ^ (places - e) := mul_le_mul_of_nonneg_right hlt.le hunit.le
      _ = (2 * 2 ^ places : Nat) := by
          rw [← zpow_add₀ two_ne_zero, ← Nat.pow_succ', Nat.cast_pow, Nat.cast_ofNat, ← zpow_natCast]
          congr 1
          omega

/-! ## The nearest number -/

/-- A significand of twice the least one carries into the exponent field, and that gives its value, too. -/
theorem value_of_fields {bits : UInt32} {field significand : Nat} (hfield : 1 ≤ field)
    (hlow : 2 ^ fractionBits ≤ significand) (hhigh : significand ≤ 2 * 2 ^ fractionBits)
    (hbits : bits.toNat = field * 2 ^ fractionBits + (significand - 2 ^ fractionBits)) :
    value bits = significand * 2 ^ ((field : ℤ) - 150) := by
  unfold value
  dsimp only
  rw [fractionBits] at *
  obtain hless | hcarry := Nat.lt_or_eq_of_le hhigh
  · have hdiv : bits.toNat / 2 ^ 23 = field := by omega
    have hmod : bits.toNat % 2 ^ 23 = significand - 2 ^ 23 := by omega
    rw [hdiv, hmod, if_neg (by omega), Nat.add_sub_cancel' hlow]
  · have hdiv : bits.toNat / 2 ^ 23 = field + 1 := by omega
    have hmod : bits.toNat % 2 ^ 23 = 0 := by omega
    have hdouble : (2 : ℚ) ^ (((field + 1 : Nat) : ℤ) - 150) = 2 * 2 ^ ((field : ℤ) - 150) := by
      rw [← zpow_one_add₀ two_ne_zero]
      congr 1
      omega
    rw [hdiv, hmod, if_neg (by omega), hcarry, hdouble]
    push_cast
    ring

/-- A number is below the power of two of an exponent field, or a multiple of the unit of that field; a multiple that is
not too large tells which number it is. -/
theorem below_or_multiple {field : Nat} (hfield : 1 ≤ field) (other : UInt32) :
    value other < 2 ^ ((field : ℤ) - 127) ∨
      ∃ k : Nat, value other = k * 2 ^ ((field : ℤ) - 150) ∧
        (k ≤ 2 * 2 ^ fractionBits → other.toNat = field * 2 ^ fractionBits + (k - 2 ^ fractionBits)) := by
  have hdigits := Nat.div_add_mod other.toNat (2 ^ fractionBits)
  have hfraction := Nat.mod_lt other.toNat (Nat.two_pow_pos fractionBits)
  unfold value
  dsimp only
  generalize other.toNat / 2 ^ fractionBits = f at *
  generalize other.toNat % 2 ^ fractionBits = t at *
  rw [fractionBits] at *
  obtain hless | hle := Nat.lt_or_ge f field
  · left
    split
    next => exact mul_two_zpow_lt hfraction (by omega)
    next => exact mul_two_zpow_lt (n := 24) (by omega) (by omega)
  · right
    rw [if_neg (by omega)]
    obtain ⟨d, rfl⟩ := Nat.exists_eq_add_of_le hle
    refine ⟨(2 ^ 23 + t) * 2 ^ d, ?_, ?_⟩
    · rw [show (((field + d : Nat) : ℤ) - 150) = d + ((field : ℤ) - 150) by omega, zpow_add₀ two_ne_zero, zpow_natCast]
      push_cast
      ring
    · -- the multiples of larger fields are larger, but for the first one of the next field
      intro hk
      obtain _ | _ | d := d
      · omega
      · omega
      · have hfour : 2 ^ 2 ≤ 2 ^ (d + 1 + 1) := Nat.pow_le_pow_right two_pos (Nat.le_add_left 2 d)
        have hlarge := Nat.mul_le_mul (Nat.le_add_right (2 ^ 23) t) hfour
        omega

/-- What is nearest among the multiples of the unit of a field is nearest among all numbers, if the power of two of that
field is not above what is rounded. -/
theorem rounds_of_multiples {x y : ℚ} {bits : UInt32} {field significand : Nat} (hfield : 1 ≤ field)
    (hmost : field ≤ 253) (hlow : 2 ^ fractionBits ≤ significand) (hhigh : significand ≤ 2 * 2 ^ fractionBits)
    (hbits : bits.toNat = field * 2 ^ fractionBits + (significand - 2 ^ fractionBits))
    (hx : x = y * 2 ^ ((field : ℤ) - 150)) (hle : 2 ^ ((field : ℤ) - 127) ≤ x)
    (hnearest : ∀ k : Nat, |(significand : ℚ) - y| ≤ |(k : ℚ) - y|)
    (heven : ∀ k : Nat, k ≠ significand → |(k : ℚ) - y| = |(significand : ℚ) - y| → significand % 2 = 0) :
    Rounds x bits := by
  have hunit : (0 : ℚ) < 2 ^ ((field : ℤ) - 150) := zpow_pos two_pos _
  have hscaled (k : Nat) : |(k : ℚ) * 2 ^ ((field : ℤ) - 150) - x| = |(k : ℚ) - y| * 2 ^ ((field : ℤ) - 150) := by
    rw [hx, ← sub_mul, abs_mul, abs_of_pos hunit]
  have hvalue := value_of_fields hfield hlow hhigh hbits
  -- a number below the power of two is farther away than the power, which is a multiple
  have hfarther (other : UInt32) (hbelow : value other < 2 ^ ((field : ℤ) - 127)) :
      |value bits - x| < |value other - x| := by
    have hpower : ((2 ^ 23 : Nat) : ℚ) * 2 ^ ((field : ℤ) - 150) = 2 ^ ((field : ℤ) - 127) := by
      rw [Nat.cast_pow, Nat.cast_ofNat, ← zpow_natCast, ← zpow_add₀ two_ne_zero]
      congr 1
      omega
    calc |value bits - x| = |(significand : ℚ) - y| * 2 ^ ((field : ℤ) - 150) := by rw [hvalue, hscaled]
      _ ≤ |((2 ^ 23 : Nat) : ℚ) - y| * 2 ^ ((field : ℤ) - 150) := mul_le_mul_of_nonneg_right (hnearest _) hunit.le
      _ = |2 ^ ((field : ℤ) - 127) - x| := by rw [← hscaled, hpower]
      _ = x - 2 ^ ((field : ℤ) - 127) := by rw [abs_sub_comm, abs_of_nonneg (sub_nonneg.mpr hle)]
      _ < x - value other := sub_lt_sub_left hbelow x
      _ ≤ |value other - x| := by
        rw [abs_sub_comm]
        exact le_abs_self _
  refine ⟨?_, ?_, ?_⟩
  · rw [infinity, hbits]
    rw [fractionBits] at *
    omega
  · intro other _
    obtain hbelow | ⟨k, hother, _⟩ := below_or_multiple hfield other
    · exact (hfarther other hbelow).le
    · rw [hvalue, hother, hscaled, hscaled]
      exact mul_le_mul_of_nonneg_right (hnearest k) hunit.le
  · intro other _ hne htie
    obtain hbelow | ⟨k, hother, hsame⟩ := below_or_multiple hfield other
    · exact absurd htie (hfarther other hbelow).ne'
    · rw [hvalue, hother, hscaled, hscaled, mul_left_inj' hunit.ne'] at htie
      have hk : k ≠ significand := by
        rintro rfl
        exact hne (UInt32.toNat_inj.mp ((hsame hhigh).trans hbits.symm))
      have hparity := heven k hk htie
      rw [fractionBits] at *
      omega

/-- The number that is made of a ratio is the nearest one, if the ratio is in the range of normal numbers. -/
theorem ofRatio_rounds (hlow : (2 : ℚ) ^ (-126 : ℤ) ≤ num / den) (hhigh : (num : ℚ) / den < 2 ^ (127 : ℤ)) :
    Rounds (num / den) (ofRatio num den) := by
  have hratio : (0 : ℚ) < num / den := lt_of_lt_of_le (zpow_pos two_pos _) hlow
  obtain ⟨hnum, hden⟩ : 0 < num ∧ 0 < den := by
    constructor <;> rw [Nat.pos_iff_ne_zero] <;> rintro rfl <;> simp at hratio
  obtain ⟨hle, hlt⟩ := exponent_spec hnum hden
  have hrange : -126 ≤ exponent num den ∧ exponent num den ≤ 126 := by
    have hleast := (zpow_lt_zpow_iff_right₀ (one_lt_two : (1 : ℚ) < 2)).mp (lt_of_le_of_lt hlow hlt)
    have hmost := (zpow_lt_zpow_iff_right₀ (one_lt_two : (1 : ℚ) < 2)).mp (lt_of_le_of_lt hle hhigh)
    omega
  have hbits : ofRatio num den = UInt32.ofNat ((exponent num den + bias).toNat <<< fractionBits +
      (nearest (num <<< (fractionBits - exponent num den).toNat) (den <<< (-(fractionBits - exponent num den)).toNat) -
        1 <<< fractionBits)) :=
    if_neg (by omega)
  have hunits := shift_ratio num den (fractionBits - exponent num den)
  have hbounds := scaled_bounds hle hlt fractionBits
  have hshifted : 0 < den <<< (-(fractionBits - exponent num den)).toNat := by
    rw [Nat.shiftLeft_eq]
    exact Nat.mul_pos hden (Nat.two_pow_pos _)
  rw [← hunits] at hbounds
  obtain ⟨hleast, hmost⟩ := nearest_between hshifted hbounds.1 hbounds.2
  obtain ⟨field, hfield⟩ : ∃ field : Nat, exponent num den = field - 127 := ⟨(exponent num den + 127).toNat, by omega⟩
  refine rounds_of_multiples (by omega : 1 ≤ field) (by omega) hleast hmost ?_ ?_ (hfield ▸ hle)
    (abs_nearest_le hshifted) fun _ => nearest_even hshifted
  · have hnat : (exponent num den + bias).toNat = field := by
      rw [bias]
      omega
    rw [hbits, hnat, Nat.shiftLeft_eq field, Nat.shiftLeft_eq 1, one_mul, UInt32.toNat_ofNat']
    apply Nat.mod_eq_of_lt
    rw [fractionBits] at *
    omega
  · have hback : (fractionBits : ℤ) - exponent num den + (field - 150) = 0 := by
      rw [fractionBits]
      omega
    rw [hunits, mul_assoc, ← zpow_add₀ two_ne_zero, hback, zpow_zero, mul_one]

theorem rounds_zero : Rounds 0 0 where
  finite := by decide
  nearest other _ := by
    have hzero : value 0 = 0 := by norm_num [value]
    rw [hzero, sub_zero, abs_zero]
    exact abs_nonneg _
  even _ _ _ _ := rfl

end BusBridge.Single

namespace BusBridge.LightMeter

open Single

/-- The bits of the number nearest to 1.2. -/
def divisor : UInt32 := 0x3f99999a

theorem divisor_rounds : Rounds (12 / 10) divisor := by
  have hbits : ofRatio 12 10 = divisor := by decide
  have hrounds := @ofRatio_rounds 12 10 (by norm_num) (by norm_num)
  rw [hbits] at hrounds
  exact_mod_cast hrounds

theorem value_divisor : value divisor = 10066330 / 8388608 := by
  have hvalue := @value_of_fields divisor 127 10066330 (by decide) (by decide) (by decide) (by decide)
  rw [hvalue]
  norm_num

/-- The illuminance of a measurement is the number nearest to its quotient with the number nearest to 1.2. -/
theorem lux_rounds (raw : UInt16) : Rounds (raw.toNat / value divisor) (lux raw) := by
  have hratio : (raw.toNat / value divisor : ℚ) = (raw.toNat * 8388608 : Nat) / (10066330 : Nat) := by
    rw [value_divisor, div_div_eq_mul_div]
    push_cast
    rfl
  rw [hratio]
  rcases Nat.eq_zero_or_pos raw.toNat with hzero | hpos
  · rw [lux, hzero, Nat.zero_mul, Nat.cast_zero, zero_div]
    exact rounds_zero
  · have hmost : raw.toNat ≤ 65535 := Nat.le_of_lt_succ raw.toNat_lt
    apply ofRatio_rounds
    · calc (2 : ℚ) ^ (-126 : ℤ) ≤ (1 * 8388608 : Nat) / (10066330 : Nat) := by norm_num
        _ ≤ (raw.toNat * 8388608 : Nat) / (10066330 : Nat) := by
          gcongr
          exact hpos
    · calc ((raw.toNat * 8388608 : Nat) : ℚ) / (10066330 : Nat)
          ≤ (65535 * 8388608 : Nat) / (10066330 : Nat) := by gcongr
        _ < 2 ^ (127 : ℤ) := by norm_num

/-- The illuminance of two bytes of the sensor, the high one first. -/
theorem lux_bytes_rounds (high low : UInt8) :
    Rounds ((high.toNat * 256 + low.toNat : Nat) / value divisor) (lux (.ofNat (high.toNat * 256 + low.toNat))) := by
  have hraw : (UInt16.ofNat (high.toNat * 256 + low.toNat)).toNat = high.toNat * 256 + low.toNat := by
    have hhigh := high.toNat_lt
    have hlow := low.toNat_lt
    rw [UInt16.toNat_ofNat']
    omega
  have hrounds := lux_rounds (.ofNat (high.toNat * 256 + low.toNat))
  rwa [hraw] at hrounds

end BusBridge.LightMeter

import Mathlib.Algebra.Order.Field.Power
import Mathlib.Algebra.Order.Field.Rat
import Mathlib.Tactic.Positivity
import Mathlib.Tactic.Ring
import DraftLisp.Proofs.Numeric.FloatBits

namespace DraftLisp.Numeric

variable {numerator denominator mantissa : Nat} {exponent : Int}

theorem zpow_mul_pow_toNat {base : Rat} (hbase : base ≠ 0) (power : Int) :
    base ^ power * base ^ (-power).toNat = base ^ power.toNat := by
  rw [← zpow_natCast, ← zpow_natCast, ← zpow_add₀ hbase]
  congr 1
  omega

theorem mul_pow_le_iff (hden : 0 < denominator) (power : Int) :
    denominator * Nat.pow 2 power.toNat ≤ numerator * Nat.pow 2 (-power).toNat ↔
      (2 : Rat) ^ power ≤ numerator / denominator := by
  have hpos : (0 : Rat) < 2 ^ (-power).toNat := by positivity
  have hden : (0 : Rat) < denominator := Nat.cast_pos.mpr hden
  rw [le_div_iff₀ hden, ← mul_le_mul_iff_of_pos_right hpos, mul_right_comm,
    zpow_mul_pow_toNat two_ne_zero, mul_comm]
  norm_cast

theorem pow_leadingExponent_le_lt (hnum : 0 < numerator) (hden : 0 < denominator) :
    (2 : Rat) ^ leadingExponent numerator denominator ≤ numerator / denominator ∧
      (numerator : Rat) / denominator < 2 ^ (leadingExponent numerator denominator + 1) := by
  have hnumRat : (0 : Rat) < numerator := Nat.cast_pos.mpr hnum
  have hdenRat : (0 : Rat) < denominator := Nat.cast_pos.mpr hden
  have hnumLe : (2 : Rat) ^ numerator.log2 ≤ numerator := by
    exact_mod_cast Nat.log2_self_le hnum.ne'
  have hnumLt : (numerator : Rat) < 2 ^ (numerator.log2 + 1) := by
    exact_mod_cast Nat.lt_log2_self
  have hdenLe : (2 : Rat) ^ denominator.log2 ≤ denominator := by
    exact_mod_cast Nat.log2_self_le hden.ne'
  have hdenLt : (denominator : Rat) < 2 ^ (denominator.log2 + 1) := by
    exact_mod_cast Nat.lt_log2_self
  unfold leadingExponent
  simp only [mul_pow_le_iff hden]
  split
  · rename_i hguess
    refine ⟨hguess, ?_⟩
    have hpow : (2 : Rat) ^ ((numerator.log2 : Int) - denominator.log2 + 1) =
        2 ^ (numerator.log2 + 1) / 2 ^ denominator.log2 := by
      rw [← zpow_natCast, ← zpow_natCast, ← zpow_sub₀ two_ne_zero]
      congr 1
      omega
    rw [hpow]
    exact div_lt_div₀ hnumLt hdenLe (by positivity) (by positivity)
  · rename_i hguess
    rw [sub_add_cancel]
    refine ⟨?_, lt_of_not_ge hguess⟩
    have hpow : (2 : Rat) ^ ((numerator.log2 : Int) - denominator.log2 - 1) =
        2 ^ numerator.log2 / 2 ^ (denominator.log2 + 1) := by
      rw [← zpow_natCast, ← zpow_natCast, ← zpow_sub₀ two_ne_zero]
      congr 1
      omega
    rw [hpow]
    exact div_le_div₀ hnumRat.le hnumLe hdenRat hdenLt.le

theorem eq_of_zpow_le_lt {base value : Rat} (hbase : 1 < base) {first second : Int}
    (hfirst : base ^ first ≤ value ∧ value < base ^ (first + 1))
    (hsecond : base ^ second ≤ value ∧ value < base ^ (second + 1)) : first = second := by
  have hle := (zpow_lt_zpow_iff_right₀ hbase).mp (hfirst.1.trans_lt hsecond.2)
  have hge := (zpow_lt_zpow_iff_right₀ hbase).mp (hsecond.1.trans_lt hfirst.2)
  omega

def HasValue (numerator denominator mantissa : Nat) (exponent : Int) : Prop :=
  0 < denominator ∧ (numerator : Rat) / denominator = mantissa * 2 ^ exponent

theorem HasValue.numerator_pos (h : HasValue numerator denominator mantissa exponent)
    (hpos : 0 < mantissa) : 0 < numerator := by
  have hmantissa : (0 : Rat) < mantissa := Nat.cast_pos.mpr hpos
  have hvalue : (0 : Rat) < numerator / denominator := by
    rw [h.2]
    positivity
  have hden : (0 : Rat) < denominator := Nat.cast_pos.mpr h.1
  exact Nat.cast_pos.mp ((div_pos_iff_of_pos_right hden).mp hvalue)

/-- The leading binary digit of a value tells it from all values with another one. -/
theorem zpow_log2_le_lt (hpos : 0 < mantissa) (exponent : Int) :
    (2 : Rat) ^ (mantissa.log2 + exponent) ≤ mantissa * 2 ^ exponent ∧
      (mantissa : Rat) * 2 ^ exponent < 2 ^ (mantissa.log2 + exponent + 1) := by
  have hle : (2 : Rat) ^ mantissa.log2 ≤ mantissa := by
    exact_mod_cast Nat.log2_self_le hpos.ne'
  have hlt : (mantissa : Rat) < 2 ^ (mantissa.log2 + 1) := by
    exact_mod_cast Nat.lt_log2_self
  have hscale : (0 : Rat) < 2 ^ exponent := by positivity
  constructor
  · rw [zpow_add₀ two_ne_zero, zpow_natCast]
    exact mul_le_mul_of_nonneg_right hle hscale.le
  · rw [add_right_comm, zpow_add₀ two_ne_zero]
    have hpow : (2 : Rat) ^ ((mantissa.log2 : Int) + 1) = 2 ^ (mantissa.log2 + 1) := by
      exact_mod_cast zpow_natCast (2 : Rat) (mantissa.log2 + 1)
    rw [hpow]
    exact mul_lt_mul_of_pos_right hlt hscale

theorem HasValue.leadingExponent_eq (h : HasValue numerator denominator mantissa exponent)
    (hpos : 0 < mantissa) :
    leadingExponent numerator denominator = mantissa.log2 + exponent := by
  refine eq_of_zpow_le_lt one_lt_two
    (pow_leadingExponent_le_lt (h.numerator_pos hpos) h.1) ?_
  rw [h.2]
  exact zpow_log2_le_lt hpos exponent

theorem HasValue.scaled_eq (h : HasValue numerator denominator mantissa exponent) :
    numerator * Nat.pow 2 (-exponent).toNat =
      mantissa * (denominator * Nat.pow 2 exponent.toNat) := by
  have hden : (denominator : Rat) ≠ 0 := Nat.cast_ne_zero.mpr h.1.ne'
  have hvalue := (div_eq_iff hden).mp h.2
  have hscale := zpow_mul_pow_toNat (two_ne_zero (α := Rat)) exponent
  have hcast : (numerator : Rat) * 2 ^ (-exponent).toNat =
      mantissa * (denominator * 2 ^ exponent.toNat) := by
    rw [hvalue, ← hscale]
    ring
  exact_mod_cast hcast

/-- Rounding finds the mantissa and the exponent of a value that a float can hold. -/
theorem HasValue.nearestBits_eq (h : HasValue numerator denominator mantissa exponent)
    (hcanonical : Canonical mantissa exponent) :
    nearestBits numerator denominator = magnitudeBits mantissa exponent := by
  have hlt := hcanonical.magnitudeBits_lt
  have hunit : max (leadingExponent numerator denominator - 52) (-1074) = exponent := by
    rw [h.leadingExponent_eq hcanonical.pos]
    have hlog : mantissa.log2 < 53 := (Nat.log2_lt hcanonical.pos.ne').mpr hcanonical.lt
    have hge := hcanonical.exponent_ge
    rcases hcanonical.full with hfull | hleast
    · have hfull : 52 ≤ mantissa.log2 := (Nat.le_log2 hcanonical.pos.ne').mpr hfull
      omega
    · omega
  have hden : 0 < denominator * Nat.pow 2 exponent.toNat :=
    Nat.mul_pos h.1 (Nat.two_pow_pos _)
  unfold nearestBits
  rw [if_neg (h.numerator_pos hcanonical.pos).ne']
  simp only [hunit]
  rw [h.scaled_eq, roundQuotient_mul hden]
  exact min_eq_left hlt.le

theorem HasValue.unpack_nearest (h : HasValue numerator denominator mantissa exponent)
    (hcanonical : Canonical mantissa exponent) :
    (nearest numerator denominator).toModel.unpack =
      .finite .positive mantissa exponent hcanonical.pos := by
  rw [nearest, h.nearestBits_eq hcanonical]
  exact unpack_ofBits hcanonical

theorem HasValue.nearest_eq_abs {x : Float} {sign : Float.Model.UnpackedFloat.Sign}
    {hpos : 0 < mantissa} (hx : x.toModel.unpack = .finite sign mantissa exponent hpos)
    (h : HasValue numerator denominator mantissa exponent) :
    nearest numerator denominator = x.abs := by
  refine eq_of_unpack_eq ?_
  rw [h.unpack_nearest (canonical_of_unpack hx), unpack_abs hx]

end DraftLisp.Numeric

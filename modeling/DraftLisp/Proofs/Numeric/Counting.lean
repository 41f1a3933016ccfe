import DraftLisp.Builtin.Basic
import DraftLisp.Proofs.Numeric.Truncated

namespace DraftLisp.Numeric

open Float.Model (Format UnpackedFloat)
open Float.Model.UnpackedFloat

variable {mantissa mantissa' : Nat} {exponent exponent' : Int} {n : Nat} {x : Float}

/-- The order of canonical mantissas and exponents is the order of their values. -/
theorem Canonical.value_lt_value (h : Canonical mantissa exponent)
    (h' : Canonical mantissa' exponent')
    (hlt : exponent < exponent' ∨ exponent = exponent' ∧ mantissa < mantissa') :
    (mantissa : Rat) * 2 ^ exponent < mantissa' * 2 ^ exponent' := by
  have hpower : (0 : Rat) < 2 ^ exponent := by positivity
  rcases hlt with hlt | ⟨rfl, hlt⟩
  · -- The greater exponent is not the least one, so that its mantissa has all binary digits.
    have hge := h.exponent_ge
    have hbound := h.lt
    have hfull : hiddenBit ≤ mantissa' := h'.full.resolve_right (by omega)
    have hmantissa : (mantissa : Rat) < mantissa' * 2 := by
      exact_mod_cast (by omega : mantissa < mantissa' * 2)
    have hstep : (2 : Rat) * 2 ^ exponent ≤ 2 ^ exponent' := by
      rw [mul_comm, ← zpow_add_one₀ two_ne_zero]
      exact zpow_le_zpow_right₀ one_le_two hlt
    calc (mantissa : Rat) * 2 ^ exponent
        < mantissa' * 2 * 2 ^ exponent := mul_lt_mul_of_pos_right hmantissa hpower
      _ = mantissa' * (2 * 2 ^ exponent) := mul_assoc _ _ _
      _ ≤ mantissa' * 2 ^ exponent' := mul_le_mul_of_nonneg_left hstep (Nat.cast_nonneg _)
  · exact mul_lt_mul_of_pos_right (by exact_mod_cast hlt) hpower

theorem Canonical.isLE_compare_iff (h : Canonical mantissa exponent)
    (h' : Canonical mantissa' exponent') :
    ((compare exponent exponent').then (compare mantissa mantissa')).isLE = true ↔
      (mantissa : Rat) * 2 ^ exponent ≤ mantissa' * 2 ^ exponent' := by
  have hless := h.value_lt_value h'
  have hmore := h'.value_lt_value h
  rcases lt_trichotomy exponent exponent' with hlt | rfl | hgt
  · simp [Int.compare_eq_lt.mpr hlt, (hless (.inl hlt)).le]
  · rcases lt_trichotomy mantissa mantissa' with hlt | rfl | hgt
    · simp [Nat.compare_eq_lt.mpr hlt, (hless (.inr ⟨rfl, hlt⟩)).le]
    · simp
    · simp [Nat.compare_eq_gt.mpr hgt, (hmore (.inr ⟨rfl, hgt⟩)).not_ge]
  · simp [Int.compare_eq_gt.mpr hgt, (hmore (.inl hgt)).not_ge]

theorem le_iff_isLE {y : Float} :
    x ≤ y ↔ (x.toModel.unpack.compare y.toModel.unpack).any (·.isLE) = true :=
  decide_eq_true_iff

theorem ofNat_zero : ofNat 0 = 0.0 := by
  decide +kernel

theorem ofNat_one : ofNat 1 = 1.0 := by
  decide +kernel

theorem unpack_ofNat_zero : (ofNat 0).toModel.unpack = .zero .positive :=
  rfl

section Positive

variable (hpos : 0 < n) (hlt : n < 2 * hiddenBit)

include hpos hlt

theorem unpack_ofNat :
    (ofNat n).toModel.unpack = .finite .positive (n * 2 ^ (52 - n.log2)) ((n.log2 : Int) - 52)
      (canonical_shifted hpos hlt).pos :=
  (hasValue_shifted hpos hlt).unpack_nearest (canonical_shifted hpos hlt)

theorem value_shifted :
    ((n * 2 ^ (52 - n.log2) : Nat) : Rat) * 2 ^ ((n.log2 : Int) - 52) = n := by
  have hvalue := (hasValue_shifted hpos hlt).2
  rwa [Nat.cast_one, div_one, eq_comm] at hvalue

end Positive

theorem le_quotient_iff (d : Dyadic) :
    n ≤ d.numerator / d.denominator ↔ (n : Rat) ≤ d.mantissa * 2 ^ d.exponent := by
  have hpos : (0 : Rat) < 2 ^ (-d.exponent).toNat := by positivity
  rw [Nat.le_div_iff_mul_le d.denominator_pos, ← mul_le_mul_iff_of_pos_right hpos, mul_assoc,
    zpow_mul_pow_toNat two_ne_zero]
  simp only [Dyadic.numerator, Dyadic.denominator]
  norm_cast

theorem toNat64_of_unpack {hpos : 0 < mantissa}
    (hx : x.toModel.unpack = .finite .positive mantissa exponent hpos) (hn : n < 2 ^ 64) :
    n ≤ toNat64 x ↔ (n : Rat) ≤ mantissa * 2 ^ exponent := by
  rw [← le_quotient_iff ⟨false, mantissa, exponent⟩]
  unfold toNat64 clampInto
  simp only [ofFloat?_of_unpack hx, Dyadic.truncate, Dyadic.signed, isNegative, Bool.false_eq_true,
    if_false]
  generalize Dyadic.numerator _ / Dyadic.denominator _ = quotient
  omega

theorem toNat64_of_unpack_infinity (hx : x.toModel.unpack = .infinity .positive) :
    toNat64 x = 0xFFFFFFFFFFFFFFFF := by
  have hshape := shape_float x
  rw [hx] at hshape
  have hnone : Dyadic.ofFloat? x = none := by
    cases hshape with
    | infinity _ htop => exact if_pos htop
  have hnan : x.isNaN = false := by
    change x.toModel.unpack.isNaN = false
    rw [hx]
    rfl
  have hnonnegative : ¬x < 0 := by
    change ¬decide (x.toModel.unpack.lt _ = true) = true
    rw [hx]
    decide +kernel
  unfold toNat64 clampInto
  simp only [hnone, hnan, hnonnegative, Bool.false_eq_true, if_false]
  rfl

theorem toNat64_of_unpack_zero {sign : Sign} (hx : x.toModel.unpack = .zero sign) :
    toNat64 x = 0 := by
  have hshape := shape_float x
  rw [hx] at hshape
  cases hshape with
  | zero hbits =>
      have hbiased : x.toBits.toNat / hiddenBit % 2048 = 0 := by
        simp only [hiddenBit, Dyadic.signBit] at *
        omega
      have hfraction : x.toBits.toNat % hiddenBit = 0 := by
        simp only [hiddenBit, Dyadic.signBit] at *
        omega
      unfold toNat64 clampInto Dyadic.ofFloat?
      simp [hbiased, hfraction, Dyadic.truncate, Dyadic.signed, Dyadic.numerator]

theorem lt_two_pow_64 (hlt : n < 2 * hiddenBit) : n < 2 ^ 64 := by
  simp only [hiddenBit] at hlt
  omega

/-- A float is at least a number just if it counts at least as far. -/
theorem ofNat_le_iff (hlt : n < 2 * hiddenBit) (x : Float) :
    ofNat n ≤ x ↔ 0.0 ≤ x ∧ n ≤ toNat64 x := by
  have hbound := lt_two_pow_64 hlt
  rcases Nat.eq_zero_or_pos n with rfl | hpos
  · simp [ofNat_zero]
  · have hzero : (0.0 : Float).toModel.unpack = .zero .positive := rfl
    rw [le_iff_isLE, le_iff_isLE, unpack_ofNat hpos hlt, hzero]
    cases hx : x.toModel.unpack with
    | notANumber => exact iff_of_false nofun fun h => nomatch h.1
    | infinity sign =>
        cases sign with
        | negative => exact iff_of_false nofun fun h => nomatch h.1
        | positive =>
            rw [toNat64_of_unpack_infinity hx]
            exact iff_of_true rfl ⟨rfl, Nat.le_of_lt_succ hbound⟩
    | zero sign =>
        rw [toNat64_of_unpack_zero hx]
        exact iff_of_false nofun fun h => hpos.not_ge h.2
    | finite sign mantissa exponent hmantissa =>
        cases sign with
        | negative => exact iff_of_false nofun fun h => nomatch h.1
        | positive =>
            rw [toNat64_of_unpack hx hbound, ← value_shifted hpos hlt,
              ← (canonical_shifted hpos hlt).isLE_compare_iff (canonical_of_unpack hx)]
            exact (and_iff_right rfl).symm

theorem toNat64_ofNat (hlt : n < 2 * hiddenBit) : toNat64 (ofNat n) = n := by
  rcases Nat.eq_zero_or_pos n with rfl | hpos
  · exact toNat64_of_unpack_zero unpack_ofNat_zero
  · have hcounts (m : Nat) (hm : m < 2 ^ 64) : m ≤ toNat64 (ofNat n) ↔ m ≤ n := by
      rw [toNat64_of_unpack (unpack_ofNat hpos hlt) hm, value_shifted hpos hlt, Nat.cast_le]
    have hbound := lt_two_pow_64 hlt
    have hself := (hcounts n hbound).mpr le_rfl
    have hnext := hcounts (n + 1) (by simp only [hiddenBit] at hlt; omega)
    omega

theorem zero_le_ofNat (hlt : n < 2 * hiddenBit) : 0.0 ≤ ofNat n := by
  rcases Nat.eq_zero_or_pos n with rfl | hpos
  · decide +kernel
  · rw [le_iff_isLE, unpack_ofNat hpos hlt]
    rfl

section Rounding

variable {given : Nat} {place least : Int}

/-- Binary digits that are zero are shifted out without a trace. -/
theorem shiftRight_mul_pow (mantissa count : Nat) :
    (⟨mantissa * 2 ^ count, false, false⟩ : ExtendedMantissa) >>> count =
      ⟨mantissa, false, false⟩ := by
  change count.repeat ExtendedMantissa.shiftRightOne _ = _
  induction count generalizing mantissa with
  | zero => simp [Nat.repeat]
  | succ count ih =>
      rw [Nat.repeat, pow_succ', ← mul_assoc, ih]
      simp [ExtendedMantissa.shiftRightOne]

theorem decreaseExponent_value (given : Nat) (place least : Int) :
    ((decreaseExponent given place least).1 : Rat) * 2 ^ (decreaseExponent given place least).2 =
      given * 2 ^ place := by
  simp only [decreaseExponent, Nat.shiftLeft_eq]
  rw [Nat.cast_mul, Nat.cast_pow, Nat.cast_two, ← zpow_natCast, mul_assoc,
    ← zpow_add₀ two_ne_zero, add_sub_cancel]

theorem decreaseExponent_value_of_le (h : least ≤ place) :
    ((decreaseExponent given place least).1 : Rat) * 2 ^ least = given * 2 ^ place := by
  have hleast : (decreaseExponent given place least).2 = least := by
    simp only [decreaseExponent]
    omega
  rw [← decreaseExponent_value given place least, hleast]

theorem targetExponent_of_value (h : Canonical mantissa exponent)
    (hvalue : (given : Rat) * 2 ^ place = mantissa * 2 ^ exponent) :
    Format.binary64.targetExponent (Float.Model.totalExponent given place) = exponent := by
  have hpositive : (0 : Rat) < given * 2 ^ place := by
    have := h.pos
    rw [hvalue]
    positivity
  have hgiven : 0 < given := Nat.cast_pos.mp (pos_of_mul_pos_left hpositive (by positivity))
  have hleading : (given.log2 : Int) + place = mantissa.log2 + exponent :=
    eq_of_zpow_le_lt one_lt_two (zpow_log2_le_lt hgiven place)
      (hvalue ▸ zpow_log2_le_lt h.pos exponent)
  have hleast : Format.binary64.minExponent = -1074 := by decide
  have hbits : Format.binary64.mantissaBits = 53 := by decide
  have hlog : mantissa.log2 < 53 := (Nat.log2_lt h.pos.ne').mpr h.lt
  have hge := h.exponent_ge
  unfold Format.targetExponent Float.Model.totalExponent
  rw [hleast, hbits]
  rcases h.full with hfull | hleast
  · have hfull : 52 ≤ mantissa.log2 := (Nat.le_log2 h.pos.ne').mpr hfull
    omega
  · omega

theorem shiftToTargetExponent_of_value (h : Canonical mantissa exponent) (hplace : place ≤ exponent)
    (hvalue : (given : Rat) * 2 ^ place = mantissa * 2 ^ exponent) :
    shiftToTargetExponent Format.binary64 given place .exact =
      (⟨mantissa, false, false⟩, exponent) := by
  have hgiven : given = mantissa * 2 ^ (exponent - place).toNat := by
    have hscale : (2 : Rat) ^ (exponent - place).toNat * 2 ^ place = 2 ^ exponent := by
      rw [← zpow_natCast, ← zpow_add₀ two_ne_zero]
      congr 1
      omega
    rw [← hscale, ← mul_assoc] at hvalue
    exact_mod_cast mul_right_cancel₀ (zpow_ne_zero place two_ne_zero) hvalue
  unfold shiftToTargetExponent shiftToExponent
  simp only [targetExponent_of_value h hvalue]
  rw [hgiven]
  refine Prod.ext (shiftRight_mul_pow mantissa _) ?_
  change place + ((exponent - place).toNat : Int) = exponent
  omega

/-- A value that a float can hold is not rounded. -/
theorem round_of_value (h : Canonical mantissa exponent) (sign : Sign)
    (hvalue : (given : Rat) * 2 ^ place = mantissa * 2 ^ exponent) :
    UnpackedFloat.round Format.binary64 sign given place =
      .finite sign mantissa exponent h.pos := by
  have hplace : (decreaseExponent given place exponent).2 ≤ exponent := by
    simp only [decreaseExponent]
    omega
  have hfirst := shiftToTargetExponent_of_value h hplace
    ((decreaseExponent_value given place exponent).trans hvalue)
  have hsecond : shiftToTargetExponent Format.binary64 mantissa exponent .exact = _ :=
    shiftToTargetExponent_of_value h le_rfl rfl
  have hrounded : (⟨mantissa, false, false⟩ : ExtendedMantissa).roundedMantissa = mantissa := rfl
  unfold UnpackedFloat.round roundWithAccuracy
  dsimp only
  rw [targetExponent_of_value h hvalue, hfirst]
  dsimp only
  rw [hrounded, hsecond]
  exact dif_neg h.pos.ne'

/-- A sum that counts becomes the float of the number that it counts to. -/
theorem normalize_of_value {total : Int} (hlt : n < 2 * hiddenBit)
    (hvalue : (total : Rat) * 2 ^ place = n) :
    UnpackedFloat.normalize Format.binary64 total place .positive =
      (ofNat n).toModel.unpack := by
  have hscale : (0 : Rat) < 2 ^ place := by positivity
  unfold UnpackedFloat.normalize
  rcases Nat.eq_zero_or_pos n with rfl | hpos
  · have hzero : total = 0 := by
      simpa [hscale.ne'] using hvalue
    rw [hzero]
    rfl
  · have htotal : 0 < total := by
      have hpositive : (0 : Rat) < total * 2 ^ place := hvalue ▸ Nat.cast_pos.mpr hpos
      exact_mod_cast pos_of_mul_pos_left hpositive hscale.le
    obtain ⟨given, rfl⟩ := Int.eq_ofNat_of_zero_le htotal.le
    rw [unpack_ofNat hpos hlt, Int.compare_eq_gt.mpr htotal]
    refine round_of_value (canonical_shifted hpos hlt) .positive ?_
    rw [value_shifted hpos hlt, ← hvalue]
    rfl

end Rounding

section Sums

variable {m : Nat} {least : Int}

theorem decreaseExponent_shifted (hpos : 0 < n) (hlt : n < 2 * hiddenBit)
    (hleast : least ≤ (n.log2 : Int) - 52) :
    ((decreaseExponent (n * 2 ^ (52 - n.log2)) ((n.log2 : Int) - 52) least).1 : Rat) * 2 ^ least =
      n := by
  rw [decreaseExponent_value_of_le hleast, value_shifted hpos hlt]

theorem ofNat_add (hlt : m + n < 2 * hiddenBit) : ofNat m + ofNat n = ofNat (m + n) := by
  suffices hsum : add Format.binary64 (ofNat m).toModel.unpack (ofNat n).toModel.unpack =
      (ofNat (m + n)).toModel.unpack by
    rw [← pack_unpack_float (ofNat (m + n)), ← hsum]
    rfl
  rcases Nat.eq_zero_or_pos m with rfl | hm
  · rw [Nat.zero_add] at hlt ⊢
    rcases Nat.eq_zero_or_pos n with rfl | hn
    · rfl
    · rw [unpack_ofNat_zero, unpack_ofNat hn hlt]
      rfl
  · rcases Nat.eq_zero_or_pos n with rfl | hn
    · rw [Nat.add_zero] at hlt ⊢
      rw [unpack_ofNat_zero, unpack_ofNat hm hlt]
      rfl
    · have hmlt : m < 2 * hiddenBit := by omega
      have hnlt : n < 2 * hiddenBit := by omega
      rw [unpack_ofNat hm hmlt, unpack_ofNat hn hnlt]
      refine normalize_of_value hlt ?_
      have hfirst := decreaseExponent_shifted hm hmlt (min_le_left _ ((n.log2 : Int) - 52))
      have hsecond := decreaseExponent_shifted hn hnlt (min_le_right ((m.log2 : Int) - 52) _)
      simp only [Sign.apply, Int.cast_add, Int.cast_natCast, add_mul]
      rw [Nat.cast_add]
      exact congrArg₂ (· + ·) hfirst hsecond

theorem ofNat_sub (hle : n ≤ m) (hlt : m < 2 * hiddenBit) :
    ofNat m - ofNat n = ofNat (m - n) := by
  suffices hdifference : sub Format.binary64 (ofNat m).toModel.unpack (ofNat n).toModel.unpack =
      (ofNat (m - n)).toModel.unpack by
    rw [← pack_unpack_float (ofNat (m - n)), ← hdifference]
    rfl
  rcases Nat.eq_zero_or_pos m with rfl | hm
  · rw [Nat.le_zero.mp hle]
    rfl
  · rcases Nat.eq_zero_or_pos n with rfl | hn
    · rw [Nat.sub_zero, unpack_ofNat_zero, unpack_ofNat hm hlt]
      rfl
    · have hnlt : n < 2 * hiddenBit := by omega
      rw [unpack_ofNat hm hlt, unpack_ofNat hn hnlt]
      refine normalize_of_value (by omega) ?_
      have hfirst := decreaseExponent_shifted hm hlt (min_le_left _ ((n.log2 : Int) - 52))
      have hsecond := decreaseExponent_shifted hn hnlt (min_le_right ((m.log2 : Int) - 52) _)
      simp only [Sign.apply, Int.cast_sub, Int.cast_natCast, sub_mul]
      rw [Nat.cast_sub hle]
      exact congrArg₂ (· - ·) hfirst hsecond

end Sums

end DraftLisp.Numeric

namespace DraftLisp.Builtin

open Numeric

variable {n : Nat}

@[simp] theorem position?_ofNat (hlt : n < 2 * hiddenBit) : position? (ofNat n) = some n := by
  rw [position?, if_pos (zero_le_ofNat hlt), toNat64_ofNat hlt]

theorem ofNat_le_iff_position? (hlt : n < 2 * hiddenBit) (x : Float) :
    ofNat n ≤ x ↔ ∃ place, position? x = some place ∧ n ≤ place := by
  rw [ofNat_le_iff hlt, position?]
  by_cases hx : 0.0 ≤ x
  · simp [hx]
  · simp [hx]

end DraftLisp.Builtin

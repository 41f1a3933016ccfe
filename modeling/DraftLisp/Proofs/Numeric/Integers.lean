import Mathlib.Data.Nat.Prime.Basic
import DraftLisp.Proofs.Numeric.Truncated

namespace DraftLisp.Numeric

/-- The exact value of the float is the integer. -/
def IsInteger (x : Float) (n : Int) : Prop :=
  ∃ d, Dyadic.ofFloat? x = some d ∧ d.signed d.numerator = n * d.denominator

/-- The number has at most 53 binary digits in front of zeros, of which there are not too many. -/
def Representable (n : Nat) : Prop :=
  ∃ leading zeros, n = leading * 2 ^ zeros ∧ leading < 2 * hiddenBit ∧ zeros ≤ 971

variable {x : Float} {n n' : Int}

namespace Dyadic

theorem exponent_le {d : Dyadic} (h : ofFloat? x = some d) : d.exponent ≤ 971 := by
  unfold ofFloat? at h
  simp only at h
  split at h
  · cases h
  · split at h <;> obtain rfl := Option.some.inj h
    · show (-1074 : Int) ≤ 971
      decide
    · simp only
      omega

theorem natAbs_signed (d : Dyadic) (magnitude : Nat) : (d.signed magnitude).natAbs = magnitude := by
  unfold signed
  split
  · simp
  · rfl

end Dyadic

theorem IsInteger.unique (h : IsInteger x n) (h' : IsInteger x n') : n = n' := by
  obtain ⟨d, hd, hvalue⟩ := h
  obtain ⟨d', hd', hvalue'⟩ := h'
  obtain rfl := Option.some.inj (hd.symm.trans hd')
  have hden : (d.denominator : Int) ≠ 0 := Int.natCast_ne_zero.mpr d.denominator_pos.ne'
  exact Int.eq_of_mul_eq_mul_right hden (hvalue.symm.trans hvalue')

/-- The magnitude of the integer without the sign. -/
theorem numerator_eq {d : Dyadic} (h : d.signed d.numerator = n * d.denominator) :
    d.numerator = n.natAbs * d.denominator := by
  rw [← d.natAbs_signed d.numerator, h, Int.natAbs_mul, Int.natAbs_natCast]

theorem IsInteger.isWhole (h : IsInteger x n) : isWhole x = true := by
  obtain ⟨d, hd, hvalue⟩ := h
  rw [isWhole_of_ofFloat? hd]
  simp [Dyadic.isWhole, numerator_eq hvalue]

theorem truncate_eq {d : Dyadic} (h : d.signed d.numerator = n * d.denominator) :
    d.truncate = n := by
  have hden := d.denominator_pos
  have hquotient : d.numerator / d.denominator = n.natAbs := by
    rw [numerator_eq h, Nat.mul_div_cancel _ hden]
  rw [Dyadic.truncate, hquotient]
  rw [numerator_eq h] at h
  have hscaled : d.signed n.natAbs * d.denominator = n * d.denominator := by
    rw [← h]
    unfold Dyadic.signed
    split <;> simp
  exact Int.eq_of_mul_eq_mul_right (Int.natCast_ne_zero.mpr hden.ne') hscaled

theorem IsInteger.clampInto (h : IsInteger x n) (low high : Int) :
    clampInto low high x = max low (min high n) := by
  obtain ⟨d, hd, hvalue⟩ := h
  unfold Numeric.clampInto
  rw [hd]
  exact congrArg (fun whole => max low (min high whole)) (truncate_eq hvalue)

theorem isInteger_of_unpack {sign : Float.Model.UnpackedFloat.Sign} {mantissa : Nat}
    {exponent : Int} {hpos : 0 < mantissa} {n : Nat}
    (hx : x.toModel.unpack = .finite sign mantissa exponent hpos)
    (hvalue : HasValue n 1 mantissa exponent) :
    IsInteger x (if isNegative sign then -(n : Int) else n) := by
  refine ⟨_, ofFloat?_of_unpack hx, ?_⟩
  have hscaled := hvalue.scaled_eq
  rw [Nat.one_mul] at hscaled
  have hnumerator : ((mantissa * Nat.pow 2 exponent.toNat : Nat) : Int) =
      n * (Nat.pow 2 (-exponent).toNat : Nat) := by
    exact_mod_cast hscaled.symm
  unfold Dyadic.signed
  split
  · exact (congrArg Neg.neg hnumerator).trans (Int.neg_mul _ _).symm
  · exact hnumerator

/-- A number with few enough leading digits is not rounded. -/
theorem isInteger_withSign (negative : Bool) {n : Nat} (h : Representable n) :
    IsInteger (withSign negative (ofNat n)) (if negative then -(n : Int) else n) := by
  obtain ⟨leading, zeros, rfl, hlt, hzeros⟩ := h
  rcases Nat.eq_zero_or_pos leading with rfl | hpos
  · rw [Nat.zero_mul]
    have hnumerator : (⟨negative, 0, -1074⟩ : Dyadic).numerator = 0 := Nat.zero_mul _
    refine ⟨_, ofFloat?_withSign_zero negative, ?_⟩
    rw [hnumerator, Nat.cast_zero, Int.neg_zero, ite_self, Int.zero_mul]
    cases negative <;> rfl
  · have hcanonical := canonical_shifted hpos hlt
    have hlog := log2_le_of_lt hpos hlt
    have hraised : Canonical (leading * 2 ^ (52 - leading.log2))
        ((leading.log2 : Int) - 52 + zeros) := by
      refine ⟨hcanonical.pos, hcanonical.lt, by omega, by omega, .inl ?_⟩
      exact hcanonical.full.resolve_right (by omega)
    have hvalue : HasValue (leading * 2 ^ zeros) 1 (leading * 2 ^ (52 - leading.log2))
        ((leading.log2 : Int) - 52 + zeros) := by
      refine ⟨one_pos, ?_⟩
      have hleading := (hasValue_shifted hpos hlt).2
      rw [Nat.cast_one, div_one] at hleading ⊢
      rw [zpow_add₀ two_ne_zero, ← mul_assoc, ← hleading, zpow_natCast]
      push_cast
      rfl
    have hunpack := hvalue.unpack_nearest hraised
    cases negative with
    | false => exact isInteger_of_unpack hunpack hvalue
    | true => exact isInteger_of_unpack (unpack_neg hunpack) hvalue

theorem isInteger_ofNat {n : Nat} (h : Representable n) : IsInteger (ofNat n) n :=
  isInteger_withSign false h

theorem isInteger_ofInt {n : Int} (h : Representable n.natAbs) : IsInteger (ofInt n) n := by
  have hsigned := isInteger_withSign (decide (n < 0)) h
  have hvalue : (if decide (n < 0) then -(n.natAbs : Int) else n.natAbs) = n := by
    by_cases hnegative : n < 0
    · rw [decide_eq_true hnegative, if_pos rfl]
      omega
    · rw [decide_eq_false hnegative, if_neg Bool.false_ne_true]
      omega
  rwa [hvalue] at hsigned

theorem IsInteger.representable (h : IsInteger x n) : Representable n.natAbs := by
  obtain ⟨d, hd, hvalue⟩ := h
  have hmantissa := Dyadic.mantissa_lt hd
  have hexponent := Dyadic.exponent_le hd
  have hnumerator := numerator_eq hvalue
  rcases Int.le_total 0 d.exponent with hge | hle
  · have hden : d.denominator = 1 := by
      simp [Dyadic.denominator, Int.toNat_of_nonpos (show -d.exponent ≤ 0 by omega)]
    rw [hden, Nat.mul_one] at hnumerator
    exact ⟨d.mantissa, d.exponent.toNat, hnumerator.symm, hmantissa, by omega⟩
  · have hnum : d.numerator = d.mantissa := by
      simp [Dyadic.numerator, Int.toNat_of_nonpos hle]
    have hle : n.natAbs ≤ d.mantissa := by
      rw [← hnum, hnumerator]
      exact Nat.le_mul_of_pos_right _ d.denominator_pos
    exact ⟨n.natAbs, 0, (Nat.mul_one _).symm, hle.trans_lt hmantissa, Nat.zero_le _⟩

theorem Representable.of_dvd {n divisor : Nat} (h : Representable n) (hn : n ≠ 0)
    (hdvd : divisor ∣ n) : Representable divisor := by
  obtain ⟨leading, zeros, rfl, hlt, hzeros⟩ := h
  obtain ⟨part, power, hpart, hpower, rfl⟩ := Nat.dvd_mul.mp hdvd
  obtain ⟨fewer, hfewer, rfl⟩ := (Nat.dvd_prime_pow Nat.prime_two).mp hpower
  have hleading : 0 < leading := Nat.pos_of_mul_pos_right (Nat.pos_of_ne_zero hn)
  exact ⟨part, fewer, rfl, (Nat.le_of_dvd hleading hpart).trans_lt hlt, hfewer.trans hzeros⟩

end DraftLisp.Numeric

import DraftLisp.Proofs.Numeric.NearestExact

namespace DraftLisp.Numeric

section Naturals

variable {n : Nat} (hpos : 0 < n) (hlt : n < 2 * hiddenBit)

include hpos hlt

theorem log2_le_of_lt : n.log2 ≤ 52 :=
  Nat.lt_succ_iff.mp ((Nat.log2_lt hpos.ne').mpr hlt)

/-- A natural number of at most 53 binary digits, shifted until it has 53 of them. -/
theorem canonical_shifted : Canonical (n * 2 ^ (52 - n.log2)) ((n.log2 : Int) - 52) := by
  have hlog := log2_le_of_lt hpos hlt
  have hlow : 2 ^ n.log2 * 2 ^ (52 - n.log2) = hiddenBit := by
    rw [← pow_add, Nat.add_sub_cancel' hlog]
    rfl
  have hhigh : 2 ^ (n.log2 + 1) * 2 ^ (52 - n.log2) = 2 * hiddenBit := by
    rw [pow_succ', mul_assoc, hlow]
  refine ⟨by positivity, ?_, by omega, by omega, .inl ?_⟩
  · rw [← hhigh]
    exact Nat.mul_lt_mul_of_pos_right Nat.lt_log2_self (by positivity)
  · rw [← hlow]
    exact Nat.mul_le_mul_right _ (Nat.log2_self_le hpos.ne')

theorem hasValue_shifted :
    HasValue n 1 (n * 2 ^ (52 - n.log2)) ((n.log2 : Int) - 52) := by
  have hlog := log2_le_of_lt hpos hlt
  have hscale : (2 : Rat) ^ (52 - n.log2) * 2 ^ ((n.log2 : Int) - 52) = 1 := by
    rw [← zpow_natCast, ← zpow_add₀ two_ne_zero, Nat.cast_sub hlog]
    simp
  refine ⟨one_pos, ?_⟩
  push_cast
  rw [mul_assoc, hscale]
  simp

end Naturals

theorem ofFloat?_withSign_zero (negative : Bool) :
    Dyadic.ofFloat? (withSign negative (ofNat 0)) = some ⟨negative, 0, -1074⟩ := by
  cases negative <;> rfl

theorem isWhole_withSign_ofNat (negative : Bool) {n : Nat} (hlt : n < 2 * hiddenBit) :
    isWhole (withSign negative (ofNat n)) = true := by
  unfold isWhole
  rcases Nat.eq_zero_or_pos n with rfl | hpos
  · -- Zero has no leading digit that could be shifted, and its sign does not make it less whole.
    rw [ofFloat?_withSign_zero]
    simp [Dyadic.isWhole, Dyadic.numerator]
  · have hunpack := (hasValue_shifted hpos hlt).unpack_nearest (canonical_shifted hpos hlt)
    have hsigned : Dyadic.ofFloat? (withSign negative (ofNat n)) =
        some ⟨negative, n * 2 ^ (52 - n.log2), (n.log2 : Int) - 52⟩ := by
      cases negative with
      | false => exact ofFloat?_of_unpack hunpack
      | true => exact ofFloat?_of_unpack (unpack_neg hunpack)
    have hlog := log2_le_of_lt hpos hlt
    have hplaces : ((n.log2 : Int) - 52).toNat = 0 := by omega
    rw [hsigned]
    simp [Dyadic.isWhole, Dyadic.numerator, Dyadic.denominator, hplaces]

namespace Dyadic

theorem mantissa_lt {x : Float} {d : Dyadic} (h : ofFloat? x = some d) :
    d.mantissa < 2 * hiddenBit := by
  unfold ofFloat? at h
  simp only at h
  split at h
  · cases h
  · split at h <;> obtain rfl := Option.some.inj h <;> simp only [hiddenBit] <;> omega

theorem exponent_neg_of_not_isWhole {d : Dyadic} (h : d.isWhole = false) : d.exponent < 0 := by
  by_contra hge
  have hden : d.denominator = 1 := by
    simp [denominator, Int.toNat_of_nonpos (show -d.exponent ≤ 0 by omega)]
  simp [isWhole, hden, Nat.mod_one] at h

end Dyadic

theorem isWhole_of_ofFloat? {x : Float} {d : Dyadic} (h : Dyadic.ofFloat? x = some d) :
    isWhole x = d.isWhole := by
  unfold isWhole
  rw [h]

theorem trunc_of_ofFloat?_none {x : Float} (h : Dyadic.ofFloat? x = none) : trunc x = x := by
  unfold trunc
  rw [h]

theorem trunc_of_isWhole {x : Float} (h : isWhole x = true) : trunc x = x := by
  cases hd : Dyadic.ofFloat? x with
  | none => exact trunc_of_ofFloat?_none hd
  | some d =>
      rw [isWhole_of_ofFloat? hd] at h
      unfold trunc
      rw [hd]
      exact if_pos h

theorem trunc_of_not_isWhole {x : Float} {d : Dyadic} (h : Dyadic.ofFloat? x = some d)
    (hwhole : d.isWhole = false) :
    trunc x = withSign d.negative (ofNat (d.numerator / d.denominator)) := by
  unfold trunc
  rw [h]
  exact if_neg (by simp [hwhole])

theorem isWhole_trunc {x : Float} {d : Dyadic} (h : Dyadic.ofFloat? x = some d) :
    isWhole (trunc x) = true := by
  have hx := isWhole_of_ofFloat? h
  cases hwhole : d.isWhole with
  | true =>
      rw [hwhole] at hx
      rw [trunc_of_isWhole hx, hx]
  | false =>
      have hexponent := Dyadic.exponent_neg_of_not_isWhole hwhole
      have hnumerator : d.numerator = d.mantissa := by
        simp [Dyadic.numerator, Int.toNat_of_nonpos hexponent.le]
      rw [trunc_of_not_isWhole h hwhole, hnumerator]
      exact isWhole_withSign_ofNat d.negative
        ((Nat.div_le_self _ _).trans_lt (Dyadic.mantissa_lt h))

theorem trunc_trunc (x : Float) : trunc (trunc x) = trunc x := by
  cases h : Dyadic.ofFloat? x with
  | none => rw [trunc_of_ofFloat?_none h, trunc_of_ofFloat?_none h]
  | some d => exact trunc_of_isWhole (isWhole_trunc h)

end DraftLisp.Numeric

import DraftLisp.Form.Text
import DraftLisp.Proofs.Numeric.Digits
import DraftLisp.Proofs.Numeric.NearestExact

namespace DraftLisp.Numeric

open Float.Model (UnpackedFloat)
open Float.Model.UnpackedFloat (Sign)

variable {x : Float} {sign : Sign} {mantissa : Nat} {exponent : Int} {hpos : 0 < mantissa}

theorem ne_of_unpack_zero (hx : x.toModel.unpack = .finite sign mantissa exponent hpos) :
    0.0 ≠ x := by
  rintro rfl
  have hzero : (0.0 : Float).toModel.unpack = .zero .positive := rfl
  rw [hzero] at hx
  cases hx

theorem ne_of_unpack_infinity (hx : x.toModel.unpack = .finite sign mantissa exponent hpos) :
    infinity ≠ x := by
  rintro rfl
  have hinfinity : infinity.toModel.unpack = .infinity .positive := rfl
  rw [hinfinity] at hx
  cases hx

theorem two_pow_lt_ten_pow : 2 ^ 1024 < 10 ^ 309 ∧ 2 ^ 1074 < 10 ^ 324 := by
  decide +kernel

theorem five_pow_lt_ten_pow : 5 ^ 1074 < 10 ^ 751 := by
  decide +kernel

theorem Canonical.value_lt (h : Canonical mantissa exponent) :
    (mantissa : Rat) * 2 ^ exponent < 10 ^ (309 : Int) := by
  have hmantissa : (mantissa : Rat) < 2 ^ (53 : Int) := by
    exact_mod_cast h.lt
  have hpower : (2 : Rat) ^ exponent ≤ 2 ^ (971 : Int) :=
    zpow_le_zpow_right₀ one_le_two h.exponent_le
  calc (mantissa : Rat) * 2 ^ exponent
      < 2 ^ (53 : Int) * 2 ^ (971 : Int) :=
        mul_lt_mul hmantissa hpower (by positivity) (by positivity)
    _ = 2 ^ (1024 : Int) := by rw [← zpow_add₀ two_ne_zero]; rfl
    _ < 10 ^ (309 : Int) := by exact_mod_cast two_pow_lt_ten_pow.1

theorem Canonical.lt_value (h : Canonical mantissa exponent) :
    (10 : Rat) ^ (-324 : Int) < mantissa * 2 ^ exponent := by
  have hmantissa : (1 : Rat) ≤ mantissa := Nat.one_le_cast.mpr h.pos
  have hpower : (2 : Rat) ^ (-1074 : Int) ≤ 2 ^ exponent :=
    zpow_le_zpow_right₀ one_le_two h.exponent_ge
  have hleast : ((10 : Rat) ^ (324 : Int))⁻¹ < (2 ^ (1074 : Int))⁻¹ :=
    inv_strictAnti₀ (by positivity) (by exact_mod_cast two_pow_lt_ten_pow.2)
  calc (10 : Rat) ^ (-324 : Int)
      < 1 * 2 ^ (-1074 : Int) := by rwa [one_mul, zpow_neg, zpow_neg]
    _ ≤ mantissa * 2 ^ exponent :=
        mul_le_mul hmantissa hpower (by positivity) (by positivity)

namespace Decimal

/-- A numeral of a float stands between the decades where numerals count as infinite or as zero. -/
theorem decade_mem_of_magnitude_eq {d : Decimal}
    (hx : x.toModel.unpack = .finite sign mantissa exponent hpos) (h : d.magnitude = x.abs) :
    d.digits ≠ 0 ∧ d.exponent + digitCount d.digits ≤ 310 ∧
      -330 ≤ d.exponent + digitCount d.digits := by
  have habs := unpack_abs hx
  unfold magnitude at h
  dsimp only at h
  split at h
  · exact absurd h (ne_of_unpack_zero habs)
  · split at h
    · exact absurd h (ne_of_unpack_infinity habs)
    · split at h
      · exact absurd h (ne_of_unpack_zero habs)
      · omega

theorem decade_le {d : Decimal} (h : Canonical mantissa exponent) (hdigits : 0 < d.digits)
    (hvalue : (d.digits : Rat) * 10 ^ d.exponent = mantissa * 2 ^ exponent) :
    d.exponent + digitCount d.digits ≤ 309 := by
  have hpower : (0 : Rat) < 10 ^ d.exponent := by positivity
  have hleading : (10 : Rat) ^ (digitCount d.digits - 1) ≤ d.digits := by
    exact_mod_cast pow_digitCount_le hdigits
  have hlt : (10 : Rat) ^ (((digitCount d.digits - 1 : Nat) : Int) + d.exponent) <
      10 ^ (309 : Int) := by
    rw [zpow_add₀ (by norm_num), zpow_natCast]
    exact (mul_le_mul_of_nonneg_right hleading hpower.le).trans_lt (hvalue ▸ h.value_lt)
  have hexponent := (zpow_lt_zpow_iff_right₀ (by norm_num)).mp hlt
  have hcount := digitCount_pos d.digits
  omega

theorem lt_decade {d : Decimal} (h : Canonical mantissa exponent)
    (hvalue : (d.digits : Rat) * 10 ^ d.exponent = mantissa * 2 ^ exponent) :
    -324 < d.exponent + digitCount d.digits := by
  have hpower : (0 : Rat) < 10 ^ d.exponent := by positivity
  have hleading : (d.digits : Rat) < 10 ^ digitCount d.digits := by
    exact_mod_cast lt_pow_digitCount d.digits
  have hlt : (10 : Rat) ^ (-324 : Int) < 10 ^ ((digitCount d.digits : Int) + d.exponent) := by
    rw [zpow_add₀ (by norm_num), zpow_natCast]
    exact (hvalue ▸ h.lt_value).trans (mul_lt_mul_of_pos_right hleading hpower)
  have hexponent := (zpow_lt_zpow_iff_right₀ (by norm_num)).mp hlt
  omega

theorem magnitude_eq_abs {d : Decimal}
    (hx : x.toModel.unpack = .finite sign mantissa exponent hpos)
    (hvalue : (d.digits : Rat) * 10 ^ d.exponent = mantissa * 2 ^ exponent) :
    d.magnitude = x.abs := by
  have hcanonical := canonical_of_unpack hx
  have hpositive : (0 : Rat) < d.digits * 10 ^ d.exponent :=
    hvalue ▸ (zpow_pos (by norm_num) _).trans hcanonical.lt_value
  have hpower : (0 : Rat) < 10 ^ d.exponent := by positivity
  have hdigits : 0 < d.digits := Nat.cast_pos.mp ((pos_iff_pos_of_mul_pos hpositive).mpr hpower)
  have hquotient : HasValue (d.digits * Nat.pow 10 d.exponent.toNat)
      (Nat.pow 10 (-d.exponent).toNat) mantissa exponent := by
    refine ⟨Nat.pow_pos (by decide), ?_⟩
    have hdivisor : (10 : Rat) ^ (-d.exponent).toNat ≠ 0 := by positivity
    rw [← hvalue]
    push_cast [Nat.pow_eq]
    rw [div_eq_iff hdivisor, mul_assoc, zpow_mul_pow_toNat (by norm_num)]
  have hnotLarge := decade_le hcanonical hdigits hvalue
  have hnotSmall := lt_decade hcanonical hvalue
  unfold magnitude
  dsimp only
  rw [if_neg hdigits.ne', if_neg (by omega), if_neg (by omega)]
  exact hquotient.nearest_eq_abs hx

end Decimal

namespace Shortest

/-- What is written of the magnitude of a float: digits without a zero at the end, not extremely
many, that read back as the magnitude. -/
structure Written (x : Float) (d : Decimal) : Prop where
  not_negative : d.negative = false
  digits : d.digits % 10 ≠ 0
  count : digitCount d.digits ≤ 800
  magnitude : d.magnitude = x.abs

theorem digitCount_le_of_le {n bound : Nat} (h : n ≤ bound) : digitCount n ≤ digitCount bound :=
  (digitCount_le_iff (digitCount_pos bound)).mpr (h.trans_lt (lt_pow_digitCount bound))

/-- A positive number of few digits that reads back is written without its zeros. -/
theorem written_ofDigits {n : Nat} {scale : Int}
    (hx : x.toModel.unpack = .finite sign mantissa exponent hpos)
    (hcount : digitCount n ≤ 800)
    (h : (Decimal.ofDigits false (digitChars n) scale).toFloat = x.abs) :
    Written x (Decimal.ofDigits false (digitChars n) scale) := by
  rcases Nat.eq_zero_or_pos n with rfl | hn
  · exact absurd h (ne_of_unpack_zero (unpack_abs hx))
  · obtain ⟨kept, zeros, rfl, hkept, heq⟩ := Decimal.ofDigits_digitChars hn false scale
    rw [heq] at h ⊢
    refine ⟨rfl, hkept, ?_, h⟩
    exact (digitCount_le_of_le (Nat.le_mul_of_pos_right _ (Nat.pow_pos (by decide)))).trans hcount

theorem onGrid?_eq_some {tie : Tie} {y : Float} {numerator denominator : Nat} {scale : Int}
    {d : Decimal} (h : onGrid? tie y numerator denominator scale = some d) :
    ∃ n, n ≤ numerator * 10 ^ (-scale).toNat + 1 ∧
      d = Decimal.ofDigits false (digitChars n) scale ∧ (d.toFloat == y) = true := by
  have hle : numerator * 10 ^ (-scale).toNat / (denominator * 10 ^ scale.toNat) ≤
      numerator * 10 ^ (-scale).toNat := Nat.div_le_self _ _
  unfold onGrid? at h
  dsimp only at h
  split at h
  · rename_i hbelow habove
    split at h
    · cases h
      exact ⟨_, Nat.le_succ_of_le hle, rfl, hbelow⟩
    · cases h
      exact ⟨_, Nat.succ_le_succ hle, rfl, habove⟩
  · rename_i hbelow habove
    cases h
    exact ⟨_, Nat.le_succ_of_le hle, rfl, hbelow⟩
  · rename_i hbelow habove
    cases h
    exact ⟨_, Nat.succ_le_succ hle, rfl, habove⟩
  · cases h

theorem le_decade (numerator denominator : Nat) :
    1 - (digitCount denominator : Int) ≤ decade numerator denominator := by
  have hle : digitCount (denominator / numerator) ≤ digitCount denominator :=
    digitCount_le_of_le (Nat.div_le_self _ _)
  have hpos := digitCount_pos (denominator / numerator)
  unfold decade
  dsimp only
  split
  · omega
  · split <;> omega

theorem pow_lt_of_le {base power bound limit : Nat} (hbase : 0 < base) (hpower : power ≤ bound)
    (hlimit : base ^ bound < limit) : base ^ power < limit :=
  (Nat.pow_le_pow_right hbase hpower).trans_lt hlimit

theorem mul_lt_pow_add {first second base power power' : Nat} (h : first < base ^ power)
    (h' : second < base ^ power') : first * second < base ^ (power + power') := by
  rw [Nat.pow_add]
  exact Nat.mul_lt_mul'' h h'

theorem numerator_lt (h : Canonical mantissa exponent) (negative : Bool) :
    (⟨negative, mantissa, exponent⟩ : Dyadic).numerator < 10 ^ 309 := by
  have hle := h.exponent_le
  have hmantissa : mantissa < 2 ^ 53 := h.lt
  have hlt : mantissa * 2 ^ exponent.toNat < 2 ^ (53 + exponent.toNat) := by
    rw [Nat.pow_add]
    exact Nat.mul_lt_mul_of_pos_right hmantissa (by positivity)
  exact hlt.trans (pow_lt_of_le (by decide) (by omega) two_pow_lt_ten_pow.1)

theorem denominator_lt (h : Canonical mantissa exponent) (negative : Bool) :
    (⟨negative, mantissa, exponent⟩ : Dyadic).denominator < 10 ^ 324 := by
  have hge := h.exponent_ge
  have hlt : 2 ^ (-exponent).toNat < 10 ^ 324 :=
    pow_lt_of_le Nat.two_pos (by omega) two_pow_lt_ten_pow.2
  exact hlt

theorem toFloat_ofDigits_eq_abs {n : Nat} {scale : Int}
    (hx : x.toModel.unpack = .finite sign mantissa exponent hpos) (hn : 0 < n)
    (hvalue : (n : Rat) * 10 ^ scale = mantissa * 2 ^ exponent) :
    (Decimal.ofDigits false (digitChars n) scale).toFloat = x.abs := by
  obtain ⟨kept, zeros, rfl, -, heq⟩ := Decimal.ofDigits_digitChars hn false scale
  rw [heq]
  refine Decimal.magnitude_eq_abs hx ?_
  rw [← hvalue, zpow_add₀ (by norm_num), zpow_natCast]
  push_cast
  ring

theorem written_onGrid {tie : Tie} {step : Nat} {d : Decimal}
    (hx : x.toModel.unpack = .finite sign mantissa exponent hpos) (hstep : step < 17)
    (h : let value : Dyadic := ⟨isNegative sign, mantissa, exponent⟩
      onGrid? tie x.abs value.numerator value.denominator
        (decade value.numerator value.denominator - (step + 1)) = some d) : Written x d := by
  have hcanonical := canonical_of_unpack hx
  have hnumerator := numerator_lt hcanonical (isNegative sign)
  have hdenominator :=
    (digitCount_le_iff (by decide)).mpr (denominator_lt hcanonical (isNegative sign))
  generalize (⟨isNegative sign, mantissa, exponent⟩ : Dyadic) = value at *
  have hdecade := le_decade value.numerator value.denominator
  obtain ⟨n, hn, rfl, hreads⟩ := onGrid?_eq_some h
  generalize hscale : decade value.numerator value.denominator - ((step : Int) + 1) = scale at *
  have hpower : (-scale).toNat ≤ 400 := by omega
  refine written_ofDigits hx ?_ (eq_of_beq (unpack_abs hx) hreads)
  have hlt : n < 10 ^ (309 + (-scale).toNat + 1) :=
    calc n ≤ value.numerator * 10 ^ (-scale).toNat + 1 := hn
      _ ≤ (value.numerator + 1) * 10 ^ (-scale).toNat := by
          rw [Nat.add_mul]
          exact Nat.add_le_add_left (Nat.mul_pos Nat.one_pos (Nat.pow_pos (by decide))) _
      _ ≤ 10 ^ 309 * 10 ^ (-scale).toNat := Nat.mul_le_mul_right _ hnumerator
      _ = 10 ^ (309 + (-scale).toNat) := by rw [Nat.pow_add]
      _ < 10 ^ (309 + (-scale).toNat + 1) := Nat.pow_lt_pow_succ (by decide)
  exact ((digitCount_le_iff (by omega)).mpr hlt).trans (by omega)

theorem written_exact (hx : x.toModel.unpack = .finite sign mantissa exponent hpos) :
    Written x (exact ⟨isNegative sign, mantissa, exponent⟩) := by
  have hcanonical := canonical_of_unpack hx
  unfold exact
  dsimp only
  split
  · rename_i hexponent
    have hn : 0 < mantissa * 2 ^ exponent.toNat := by positivity
    refine written_ofDigits hx ?_ (toFloat_ofDigits_eq_abs hx hn ?_)
    · refine ((digitCount_le_iff (by decide)).mpr
        (numerator_lt hcanonical (isNegative sign))).trans (by decide)
    · have hpower : (2 : Rat) ^ exponent = 2 ^ exponent.toNat := by
        rw [← zpow_natCast, Int.toNat_of_nonneg hexponent]
      rw [hpower, zpow_zero, mul_one]
      simp [Dyadic.numerator]
  · rename_i hexponent
    have hn : 0 < mantissa * 5 ^ exponent.natAbs := by positivity
    refine written_ofDigits hx ?_ (toFloat_ofDigits_eq_abs hx hn ?_)
    · have hmantissa : mantissa < 2 ^ 53 := hcanonical.lt
      have hge := hcanonical.exponent_ge
      have hpower : 5 ^ exponent.natAbs < 10 ^ 751 :=
        pow_lt_of_le (by decide) (by omega) five_pow_lt_ten_pow
      have hlt : mantissa * 5 ^ exponent.natAbs < 10 ^ (16 + 751) :=
        mul_lt_pow_add (hmantissa.trans (by decide)) hpower
      exact ((digitCount_le_iff (by decide)).mpr hlt).trans (by decide)
    · have hten : (10 : Rat) ^ exponent = 2 ^ exponent * 5 ^ exponent := by
        rw [← mul_zpow]
        norm_num
      have hfive : (5 : Rat) ^ exponent.natAbs * 5 ^ exponent = 1 := by
        rw [← zpow_natCast, ← zpow_add₀ (by norm_num)]
        convert zpow_zero (5 : Rat)
        omega
      push_cast [Nat.pow_eq]
      calc (mantissa : Rat) * 5 ^ exponent.natAbs * 10 ^ exponent
          = mantissa * 2 ^ exponent * (5 ^ exponent.natAbs * 5 ^ exponent) := by
            rw [hten]
            ring
        _ = mantissa * 2 ^ exponent := by rw [hfive, mul_one]

theorem written_magnitude (tie : Tie)
    (hx : x.toModel.unpack = .finite sign mantissa exponent hpos) :
    Written x (magnitude tie ⟨isNegative sign, mantissa, exponent⟩ x) := by
  unfold magnitude
  dsimp only
  rw [if_neg hpos.ne']
  cases hfound : (List.range 17).findSome? _ with
  | none => exact written_exact hx
  | some d =>
      obtain ⟨step, hstep, hgrid⟩ := List.exists_of_findSome?_eq_some hfound
      exact written_onGrid hx (List.mem_range.mp hstep) hgrid

end Shortest

theorem isFinite_of_unpack (hx : x.toModel.unpack = .finite sign mantissa exponent hpos) :
    x.isFinite = true := by
  change x.toModel.unpack.isFinite = true
  rw [hx]
  rfl

theorem readFinite?_plainChars (hx : x.toModel.unpack = .finite sign mantissa exponent hpos) :
    readFinite? (plainChars x) = some x := by
  have hwritten := Shortest.written_magnitude .away hx
  have hchars : plainChars x = signChars (isNegative sign) ++
      positional
        (digitChars (Shortest.magnitude .away ⟨isNegative sign, mantissa, exponent⟩ x).digits)
        (Shortest.magnitude .away ⟨isNegative sign, mantissa, exponent⟩ x).exponent := by
    unfold plainChars
    rw [ofFloat?_of_unpack hx]
  generalize Shortest.magnitude .away ⟨isNegative sign, mantissa, exponent⟩ x = d at *
  obtain ⟨hnegative, hdigits, hcount, hmagnitude⟩ := hwritten
  obtain ⟨-, hlarge, hsmall⟩ := Decimal.decade_mem_of_magnitude_eq hx hmagnitude
  have hread : readDecimal? (signChars (isNegative sign) ++
      positional (digitChars d.digits) d.exponent) =
        some ⟨isNegative sign, d.digits, d.exponent⟩ := by
    refine readDecimal?_positional hdigits (isNegative sign) ?_ ?_ ?_ <;>
      simp only [Decimal.lengthLimit] <;> omega
  have hfloat : (⟨isNegative sign, d.digits, d.exponent⟩ : Decimal).toFloat = x := by
    change withSign (isNegative sign) d.magnitude = x
    rw [hmagnitude, withSign_abs hx]
  rw [hchars]
  unfold readFinite? readFloat?
  rw [hread]
  simp [hfloat, isFinite_of_unpack hx]

/-- What a float becomes when its text is read: a zero loses its sign. -/
def reread (x : Float) : Float := if x == 0.0 then 0.0 else x

theorem isFinite_reread (h : x.isFinite = true) : (reread x).isFinite = true := by
  unfold reread
  split
  · rfl
  · exact h

theorem reread_beq (h : x.isFinite = true) : (reread x == x) = true := by
  unfold reread
  rcases zero_or_finite h with ⟨hzero, hzero'⟩ | ⟨sign, mantissa, exponent, hpos, hx⟩
  · rw [if_pos hzero]
    exact hzero'
  · have hne : (x == 0.0) = false := by
      rw [beq_eq_compare, hx]
      cases sign <;> rfl
    rw [hne]
    change (x == x) = true
    rw [beq_eq_compare, hx, compare_self_finite]
    rfl

theorem readFinite?_numberChars (h : x.isFinite = true) :
    readFinite? (numberChars x) = some (reread x) := by
  have hzero : readFinite? ['0'] = some 0.0 := by rfl
  unfold numberChars reread
  split
  · exact hzero
  · rename_i hne
    rcases zero_or_finite h with ⟨heq, -⟩ | ⟨sign, mantissa, exponent, hpos, hx⟩
    · exact absurd heq hne
    · exact readFinite?_plainChars hx

end DraftLisp.Numeric

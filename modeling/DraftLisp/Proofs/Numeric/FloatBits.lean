import Mathlib.Algebra.Group.Nat.Defs
import DraftLisp.Numeric.Dyadic

namespace DraftLisp.Numeric

open Float.Model (UnpackedFloat Format)
open Float.Model.UnpackedFloat

/-- The mantissas and exponents that finite floats other than zero have. -/
structure Canonical (mantissa : Nat) (exponent : Int) : Prop where
  pos : 0 < mantissa
  lt : mantissa < 2 * hiddenBit
  exponent_ge : -1074 ≤ exponent
  exponent_le : exponent ≤ 971
  full : hiddenBit ≤ mantissa ∨ exponent = -1074

def magnitudeBits (mantissa : Nat) (exponent : Int) : Nat :=
  (exponent + 1074).toNat * hiddenBit + mantissa

variable {mantissa : Nat} {exponent : Int}

theorem Canonical.magnitudeBits_lt (h : Canonical mantissa exponent) :
    magnitudeBits mantissa exponent < infinityBits := by
  obtain ⟨_, hlt, hge, hle, hfull⟩ := h
  simp only [magnitudeBits, infinityBits, hiddenBit] at *
  omega

theorem Canonical.eq_of_magnitudeBits {mantissa' : Nat} {exponent' : Int}
    (h : Canonical mantissa exponent) (h' : Canonical mantissa' exponent')
    (heq : magnitudeBits mantissa exponent = magnitudeBits mantissa' exponent') :
    mantissa = mantissa' ∧ exponent = exponent' := by
  obtain ⟨_, hlt, hge, hle, hfull⟩ := h
  obtain ⟨_, hlt', hge', hle', hfull'⟩ := h'
  simp only [magnitudeBits, hiddenBit] at *
  omega

def signOf (bits : Nat) : Sign := if bits < Dyadic.signBit then .positive else .negative

theorem toNat_unpackExponent (b : BitVec 64) :
    (@unpackExponent Format.binary64 b).toNat = b.toNat / hiddenBit % 2048 := by
  change (b.toNat >>> 52) % 2 ^ 11 = _
  rw [Nat.shiftRight_eq_div_pow]
  rfl

theorem toNat_unpackMantissa (b : BitVec 64) :
    (@unpackMantissa Format.binary64 b).toNat = b.toNat % hiddenBit := by
  change (b.toNat >>> 0) % 2 ^ 52 = _
  rfl

theorem ofBitVec_unpackSign (b : BitVec 64) :
    Sign.ofBitVec (@unpackSign Format.binary64 b) = signOf b.toNat := by
  have hvalue : (@unpackSign Format.binary64 b).toNat = b.toNat / 2 ^ 63 % 2 := by
    change (b.toNat >>> 63) % 2 ^ 1 = _
    rw [Nat.shiftRight_eq_div_pow]
  have hlt := b.isLt
  unfold Sign.ofBitVec signOf
  simp only [← BitVec.toNat_inj, hvalue, Dyadic.signBit]
  congr 1
  simp only [BitVec.toNat_ofNat, eq_iff_iff]
  omega

theorem toNat_one_append {width : Nat} (b : BitVec width) :
    (1#1 ++ b).toNat = 2 ^ width + b.toNat := by
  rw [BitVec.toNat_append, ← Nat.shiftLeft_add_eq_or_of_lt b.isLt]
  simp [Nat.shiftLeft_eq]

/-- How the parts of the bits of a float decide what the bits stand for. -/
inductive Unpacks {spec : Format} (b : BitVec spec.numBits) : UnpackedFloat → Prop
  | notANumber (hones : unpackExponent b = -1#_) (hsome : unpackMantissa b ≠ 0#_) :
      Unpacks b .notANumber
  | infinity (hones : unpackExponent b = -1#_) (hnone : unpackMantissa b = 0#_) :
      Unpacks b (.infinity (Sign.ofBitVec (unpackSign b)))
  | zero (hzero : unpackExponent b = 0#_) (hnone : unpackMantissa b = 0#_) :
      Unpacks b (.zero (Sign.ofBitVec (unpackSign b)))
  | subnormal (hzero : unpackExponent b = 0#_) (hsome : unpackMantissa b ≠ 0#_)
      (hpos : 0 < (unpackMantissa b).toNat) :
      Unpacks b (.finite (Sign.ofBitVec (unpackSign b)) (unpackMantissa b).toNat
        ((unpackExponent b).toNat -
          ((spec.exponentBias : Int) + spec.mantissaBitsWithoutImplicit) + 1) hpos)
  | normal (hones : unpackExponent b ≠ -1#_) (hzero : unpackExponent b ≠ 0#_)
      (hpos : 0 < (1#1 ++ unpackMantissa b).toNat) :
      Unpacks b (.finite (Sign.ofBitVec (unpackSign b)) (1#1 ++ unpackMantissa b).toNat
        ((unpackExponent b).toNat -
          ((spec.exponentBias : Int) + spec.mantissaBitsWithoutImplicit)) hpos)

theorem unpacks_unpack {spec : Format} (b : BitVec spec.numBits) : Unpacks b (unpack spec b) := by
  unfold unpack
  dsimp only
  by_cases hones : unpackExponent b = -1#_
  · rw [if_pos hones]
    by_cases hnone : unpackMantissa b = 0#_
    · rw [if_pos hnone]
      exact .infinity hones hnone
    · rw [if_neg hnone]
      exact .notANumber hones hnone
  · rw [if_neg hones]
    by_cases hzero : unpackExponent b = 0#_
    · rw [if_pos hzero]
      by_cases hnone : unpackMantissa b = 0#_
      · rw [dif_pos hnone]
        exact .zero hzero hnone
      · rw [dif_neg hnone]
        exact .subnormal hzero hnone _
    · rw [if_neg hzero]
      exact .normal hones hzero _

/-- The ways in which the bits of a float can be read. -/
inductive Shape (bits : Nat) : UnpackedFloat → Prop
  | notANumber (h : bits / hiddenBit % 2048 = 2047) : Shape bits .notANumber
  | infinity (sign : Sign) (h : bits / hiddenBit % 2048 = 2047) : Shape bits (.infinity sign)
  | zero (h : bits % Dyadic.signBit = 0) : Shape bits (.zero (signOf bits))
  | finite {mantissa : Nat} {exponent : Int} (hpos : 0 < mantissa)
      (hcanonical : Canonical mantissa exponent)
      (h : bits % Dyadic.signBit = magnitudeBits mantissa exponent) :
      Shape bits (.finite (signOf bits) mantissa exponent hpos)

theorem shape_unpack (b : BitVec 64) : Shape b.toNat (unpack Format.binary64 b) := by
  have hexponent := toNat_unpackExponent b
  have hmantissa := toNat_unpackMantissa b
  have hlt := b.isLt
  have hunpacks := @unpacks_unpack Format.binary64 b
  have hones (h : @unpackExponent Format.binary64 b = -1#_) :
      b.toNat / hiddenBit % 2048 = 2047 := by
    rw [← hexponent, h]
    rfl
  have hbottom (h : @unpackExponent Format.binary64 b = 0#_) : b.toNat / hiddenBit % 2048 = 0 := by
    rw [← hexponent, h]
    rfl
  generalize unpack Format.binary64 b = unpacked at hunpacks
  cases hunpacks with
  | notANumber htop => exact .notANumber (hones htop)
  | infinity htop => exact .infinity _ (hones htop)
  | zero hzero hnone =>
      have hfraction : b.toNat % hiddenBit = 0 := by
        rw [← hmantissa, hnone]
        rfl
      have hzero := hbottom hzero
      rw [ofBitVec_unpackSign]
      refine .zero ?_
      simp only [hiddenBit, Dyadic.signBit] at *
      omega
  | subnormal hzero hsome =>
      have hfraction : b.toNat % hiddenBit ≠ 0 := by
        rw [← hmantissa]
        intro h
        exact hsome (BitVec.eq_of_toNat_eq h)
      have hzero := hbottom hzero
      rw [ofBitVec_unpackSign]
      refine .finite _ ⟨?_, ?_, ?_, ?_, ?_⟩ ?_ <;>
        simp only [hexponent, hmantissa, hzero, magnitudeBits, Format.exponentBias, hiddenBit,
          Dyadic.signBit] at * <;>
        omega
  | normal htop hzero =>
      have htop : b.toNat / hiddenBit % 2048 ≠ 2047 := by
        rw [← hexponent]
        intro h
        exact htop (BitVec.eq_of_toNat_eq h)
      have hzero : b.toNat / hiddenBit % 2048 ≠ 0 := by
        rw [← hexponent]
        intro h
        exact hzero (BitVec.eq_of_toNat_eq h)
      rw [ofBitVec_unpackSign]
      refine .finite _ ⟨?_, ?_, ?_, ?_, ?_⟩ ?_ <;>
        simp only [hexponent, toNat_one_append, hmantissa, magnitudeBits, Format.exponentBias,
          hiddenBit, Dyadic.signBit] at * <;>
        omega

theorem toBitVec_ofBitVec (b : BitVec 1) : (Sign.ofBitVec b).toBitVec = b := by
  unfold Sign.ofBitVec
  split
  · rename_i h
    rw [h]
    rfl
  · rename_i h
    have hlt := b.isLt
    have hne : b.toNat ≠ 0 := fun hzero => h (BitVec.eq_of_toNat_eq hzero)
    refine BitVec.eq_of_toNat_eq ?_
    change 1 = b.toNat
    omega

theorem packComponents_unpack {spec : Format} (b : BitVec spec.numBits) :
    packComponents spec (Sign.ofBitVec (unpackSign b)) (unpackExponent b) (unpackMantissa b) =
      b := by
  have hm := spec.hm
  have he := spec.he
  refine BitVec.eq_of_getLsbD_eq fun i hi => ?_
  have hsign : unpackSign b =
      (b.extractLsb (spec.mantissaBitsWithoutImplicit + spec.exponentBits)
        (spec.mantissaBitsWithoutImplicit + spec.exponentBits)).cast (by omega) := rfl
  simp only [packComponents, toBitVec_ofBitVec, hsign, unpackExponent, unpackMantissa,
    BitVec.getLsbD_append, BitVec.getLsbD_cast, BitVec.getLsbD_extractLsb]
  split
  · simp
    omega
  · split
    · rw [Nat.add_sub_cancel' (by omega)]
      simp
      omega
    · have hlast : i = spec.mantissaBitsWithoutImplicit + spec.exponentBits := by
        simp only [Format.numBits] at hi
        omega
      subst hlast
      simp

theorem pack_subnormal {spec : Format} (hbits : 1 < spec.exponentBits) (sign : Sign)
    {fraction : BitVec spec.mantissaBitsWithoutImplicit} (hpos : 0 < fraction.toNat) :
    pack spec (.finite sign fraction.toNat
      (0 - ((spec.exponentBias : Int) + spec.mantissaBitsWithoutImplicit) + 1) hpos) =
        packComponents spec sign 0#_ fraction := by
  -- The leading bit is missing, which tells these mantissas from all others.
  have hlog := (Nat.log2_lt (Nat.ne_of_gt hpos)).mpr fraction.isLt
  unfold pack
  dsimp only
  rw [if_neg, if_neg, BitVec.ofNat_toNat, BitVec.setWidth_eq]
  · have hwidth : spec.mantissaBits = 1 + spec.mantissaBitsWithoutImplicit := rfl
    omega
  · have hpow : 2 ^ 2 ≤ 2 ^ spec.exponentBits := Nat.pow_le_pow_right (by omega) hbits
    omega

theorem log2_two_pow_add {width rest : Nat} (h : rest < 2 ^ width) :
    (2 ^ width + rest).log2 = width := by
  have hpos : 0 < 2 ^ width := Nat.two_pow_pos _
  have hne : 2 ^ width + rest ≠ 0 := by omega
  have hle := (Nat.le_log2 hne).mpr (Nat.le_add_right _ _)
  have hlt := (Nat.log2_lt (k := width + 1) hne).mpr (by
    rw [Nat.pow_succ]
    omega)
  omega

theorem pack_normal {spec : Format} (sign : Sign) {biased : BitVec spec.exponentBits}
    (hones : biased ≠ -1#_) (hzero : biased ≠ 0#_)
    (fraction : BitVec spec.mantissaBitsWithoutImplicit) (hpos : 0 < (1#1 ++ fraction).toNat) :
    pack spec (.finite sign (1#1 ++ fraction).toNat
      (biased.toNat - ((spec.exponentBias : Int) + spec.mantissaBitsWithoutImplicit)) hpos) =
        packComponents spec sign biased fraction := by
  have hlt : biased.toNat + 1 < 2 ^ spec.exponentBits := by
    have hisLt := biased.isLt
    have hne : biased.toNat ≠ 2 ^ spec.exponentBits - 1 := by
      intro h
      refine hones (BitVec.eq_of_toNat_eq ?_)
      rw [h, BitVec.neg_one_eq_allOnes, BitVec.toNat_allOnes]
    omega
  have hbiased : 0 < biased.toNat :=
    Nat.pos_of_ne_zero fun h => hzero (BitVec.eq_of_toNat_eq h)
  unfold pack
  dsimp only
  rw [toNat_one_append, log2_two_pow_add fraction.isLt, if_neg, if_pos]
  · have hexponent : (biased.toNat -
        ((spec.exponentBias : Int) + spec.mantissaBitsWithoutImplicit) +
        spec.exponentBias + spec.mantissaBitsWithoutImplicit).toNat = biased.toNat := by
      omega
    have hfraction : BitVec.ofNat spec.mantissaBitsWithoutImplicit
        (2 ^ spec.mantissaBitsWithoutImplicit + fraction.toNat) = fraction := by
      refine BitVec.eq_of_toNat_eq ?_
      rw [BitVec.toNat_ofNat, Nat.add_mod_left, Nat.mod_eq_of_lt fraction.isLt]
    rw [hexponent, hfraction, BitVec.ofNat_toNat, BitVec.setWidth_eq]
  · have hwidth : spec.mantissaBits = 1 + spec.mantissaBitsWithoutImplicit := rfl
    omega
  · omega

theorem pack_unpack {spec : Format} (hbits : 1 < spec.exponentBits) {b : BitVec spec.numBits}
    (hvalid : spec.Valid b) : pack spec (unpack spec b) = b := by
  have hwhole := packComponents_unpack b
  have hunpacks := unpacks_unpack b
  generalize unpack spec b = unpacked at hunpacks
  cases hunpacks with
  | notANumber hones hsome => exact (hvalid.eq_packedNaN hones hsome).symm
  | infinity hones hnone =>
      rw [hones, hnone] at hwhole
      exact hwhole
  | zero hzero hnone =>
      rw [hzero, hnone] at hwhole
      exact hwhole
  | subnormal hzero =>
      rw [hzero] at hwhole ⊢
      exact (pack_subnormal hbits _ _).trans hwhole
  | normal hones hzero => exact (pack_normal _ hones hzero _ _).trans hwhole

theorem pack_unpack_float (x : Float) : Float.ofModel (.pack x.toModel.unpack) = x := by
  obtain ⟨⟨bits, hvalid⟩⟩ := x
  have hpack := pack_unpack (by decide) hvalid
  have hbits : UInt64.ofBitVec (pack Format.binary64 (unpack Format.binary64 bits.toBitVec)) =
      bits := by
    rw [hpack]
  have hsame : ∀ (other : UInt64) (hother : Format.binary64.Valid other.toBitVec), other = bits →
      (⟨other, hother⟩ : Float.Model) = ⟨bits, hvalid⟩ := by
    rintro _ _ rfl
    rfl
  exact congrArg Float.ofModel (hsame _ _ hbits)

theorem eq_of_unpack_eq {x y : Float} (h : x.toModel.unpack = y.toModel.unpack) : x = y := by
  rw [← pack_unpack_float x, h, pack_unpack_float]

def signedBits (mantissa : Nat) (exponent : Int) : Sign → Nat
  | .positive => magnitudeBits mantissa exponent
  | .negative => Dyadic.signBit + magnitudeBits mantissa exponent

theorem unpack_signedBits (h : Canonical mantissa exponent) (sign : Sign) :
    unpack Format.binary64 (BitVec.ofNat 64 (signedBits mantissa exponent sign)) =
      .finite sign mantissa exponent h.pos := by
  have hlt := h.magnitudeBits_lt
  simp only [infinityBits, hiddenBit] at hlt
  have hword : (BitVec.ofNat 64 (signedBits mantissa exponent sign)).toNat =
      signedBits mantissa exponent sign := by
    rw [BitVec.toNat_ofNat]
    cases sign <;> simp only [signedBits, Dyadic.signBit] <;> omega
  have hsign : signOf (signedBits mantissa exponent sign) = sign := by
    cases sign with
    | positive => exact if_pos (by simp only [signedBits, Dyadic.signBit]; omega)
    | negative => exact if_neg (by simp only [signedBits, Dyadic.signBit]; omega)
  have hrest : signedBits mantissa exponent sign % Dyadic.signBit =
      magnitudeBits mantissa exponent := by
    cases sign <;> simp only [signedBits, Dyadic.signBit] <;> omega
  have hexponent : signedBits mantissa exponent sign / hiddenBit % 2048 ≠ 2047 := by
    cases sign <;> simp only [signedBits, Dyadic.signBit, hiddenBit] <;> omega
  have hshape := shape_unpack (BitVec.ofNat 64 (signedBits mantissa exponent sign))
  rw [hword] at hshape
  generalize unpack Format.binary64 _ = unpacked at hshape
  cases hshape with
  | notANumber htop => exact absurd htop hexponent
  | infinity _ htop => exact absurd htop hexponent
  | zero hzero =>
      have hpos := h.pos
      rw [hrest] at hzero
      simp only [magnitudeBits] at hzero
      omega
  | finite hpos hcanonical hbits =>
      obtain ⟨rfl, rfl⟩ := hcanonical.eq_of_magnitudeBits h (hbits.symm.trans hrest)
      rw [hsign]

theorem unpack_pack (h : Canonical mantissa exponent) (sign : Sign) :
    (Float.Model.pack (.finite sign mantissa exponent h.pos)).unpack =
      .finite sign mantissa exponent h.pos := by
  have hunpack := unpack_signedBits h sign
  have hvalid : Format.binary64.Valid (BitVec.ofNat 64 (signedBits mantissa exponent sign)) := by
    refine ⟨fun hones hsome => ?_⟩
    unfold unpack at hunpack
    dsimp only at hunpack
    rw [if_pos hones, if_neg hsome] at hunpack
    cases hunpack
  have hpack := pack_unpack (by decide) hvalid
  rw [hunpack] at hpack
  change unpack Format.binary64 (pack Format.binary64 _) = _
  rw [hpack, hunpack]

theorem unpack_ofBits (h : Canonical mantissa exponent) :
    (Float.ofBits (magnitudeBits mantissa exponent).toUInt64).toModel.unpack =
      .finite .positive mantissa exponent h.pos := by
  change (Float.Model.pack (unpack Format.binary64
    (BitVec.ofNat 64 (signedBits mantissa exponent .positive)))).unpack = _
  rw [unpack_signedBits h, unpack_pack h]

def isNegative : Sign → Bool
  | .negative => true
  | .positive => false

variable {x y : Float} {sign : Sign} {hpos : 0 < mantissa}

theorem shape_float (x : Float) : Shape x.toBits.toNat x.toModel.unpack :=
  shape_unpack x.toBits.toBitVec

theorem canonical_of_unpack (hx : x.toModel.unpack = .finite sign mantissa exponent hpos) :
    Canonical mantissa exponent := by
  have hshape := shape_float x
  rw [hx] at hshape
  cases hshape
  assumption

theorem ofFloat?_of_unpack (hx : x.toModel.unpack = .finite sign mantissa exponent hpos) :
    Dyadic.ofFloat? x = some ⟨isNegative sign, mantissa, exponent⟩ := by
  have hshape := shape_float x
  rw [hx] at hshape
  clear hx
  cases hshape with
  | finite _ hcanonical hbits =>
      have hnegative : decide (Dyadic.signBit ≤ x.toBits.toNat) =
          isNegative (signOf x.toBits.toNat) := by
        unfold signOf
        split
        · rename_i h
          simpa [isNegative] using h
        · rename_i h
          simpa [isNegative] using h
      obtain ⟨_, hlt, hge, hle, hfull⟩ := hcanonical
      unfold Dyadic.ofFloat?
      simp only [hnegative]
      by_cases hhidden : hiddenBit ≤ mantissa
      · have hbiased : x.toBits.toNat / hiddenBit % 2048 = (exponent + 1075).toNat := by
          simp only [magnitudeBits, hiddenBit, Dyadic.signBit] at *
          omega
        have hfraction : hiddenBit + x.toBits.toNat % hiddenBit = mantissa := by
          simp only [magnitudeBits, hiddenBit, Dyadic.signBit] at *
          omega
        rw [hbiased, hfraction, if_neg (by omega), if_neg (by omega)]
        simp only [Option.some.injEq, Dyadic.mk.injEq, true_and]
        omega
      · have hleast : exponent = -1074 := hfull.resolve_left hhidden
        have hbiased : x.toBits.toNat / hiddenBit % 2048 = 0 := by
          simp only [magnitudeBits, hiddenBit, Dyadic.signBit] at *
          omega
        have hfraction : x.toBits.toNat % hiddenBit = mantissa := by
          simp only [magnitudeBits, hiddenBit, Dyadic.signBit] at *
          omega
        rw [hbiased, hfraction, hleast]
        rfl

theorem unpack_abs (hx : x.toModel.unpack = .finite sign mantissa exponent hpos) :
    x.abs.toModel.unpack = .finite .positive mantissa exponent hpos := by
  change (Float.Model.pack x.toModel.unpack.abs).unpack = _
  rw [hx]
  exact unpack_pack (canonical_of_unpack hx) .positive

theorem unpack_neg (hx : x.toModel.unpack = .finite sign mantissa exponent hpos) :
    (-x).toModel.unpack = .finite (-sign) mantissa exponent hpos := by
  change (Float.Model.pack x.toModel.unpack.neg).unpack = _
  rw [hx]
  exact unpack_pack (canonical_of_unpack hx) (-sign)

theorem withSign_abs (hx : x.toModel.unpack = .finite sign mantissa exponent hpos) :
    withSign (isNegative sign) x.abs = x := by
  have habs := unpack_abs hx
  refine eq_of_unpack_eq ?_
  rw [hx]
  cases sign with
  | positive => exact habs
  | negative => exact unpack_neg habs

theorem beq_eq_compare (x y : Float) :
    (x == y) = (x.toModel.unpack.compare y.toModel.unpack == some .eq) :=
  rfl

theorem compare_self_finite (sign : Sign) (exponent : Int) (hpos : 0 < mantissa) :
    (UnpackedFloat.finite sign mantissa exponent hpos).compare
      (.finite sign mantissa exponent hpos) = some .eq := by
  cases sign with
  | positive =>
      change some ((compare exponent exponent).then (compare mantissa mantissa)) = _
      simp
  | negative =>
      change some ((compare exponent exponent).then (compare mantissa mantissa)).swap = _
      simp

theorem eq_of_compare_finite {other : Sign} {mantissa' : Nat} {exponent' : Int}
    {hpos' : 0 < mantissa'}
    (h : (UnpackedFloat.finite sign mantissa exponent hpos).compare
      (.finite other mantissa' exponent' hpos') = some .eq) :
    sign = other ∧ mantissa = mantissa' ∧ exponent = exponent' := by
  cases sign with
  | positive =>
      cases other with
      | positive =>
          change some ((compare exponent exponent').then (compare mantissa mantissa')) = _ at h
          simp at h
          exact ⟨rfl, h.2, h.1⟩
      | negative => cases h
  | negative =>
      cases other with
      | positive => cases h
      | negative =>
          change some ((compare exponent exponent').then (compare mantissa mantissa')).swap = _ at h
          simp at h
          exact ⟨rfl, h.2, h.1⟩

theorem beq_self_of_isNaN {x : Float} (h : x.isNaN = false) : (x == x) = true := by
  change x.toModel.unpack.isNaN = false at h
  rw [beq_eq_compare]
  cases hx : x.toModel.unpack with
  | notANumber =>
      rw [hx] at h
      cases h
  | infinity sign => cases sign <;> rfl
  | zero sign => rfl
  | finite sign mantissa exponent hpos =>
      rw [compare_self_finite]
      rfl

/-- A number that is equal to a finite float other than zero is the same float. -/
theorem eq_of_beq (hy : y.toModel.unpack = .finite sign mantissa exponent hpos)
    (h : (x == y) = true) : x = y := by
  refine eq_of_unpack_eq ?_
  rw [beq_eq_compare, hy, beq_iff_eq] at h
  rw [hy]
  cases hx : x.toModel.unpack with
  | notANumber =>
      rw [hx] at h
      cases h
  | infinity other =>
      rw [hx] at h
      cases other <;> cases h
  | zero other =>
      rw [hx] at h
      cases sign <;> cases h
  | finite other mantissa' exponent' hpos' =>
      rw [hx] at h
      obtain ⟨rfl, rfl, rfl⟩ := eq_of_compare_finite h
      rfl

theorem zero_or_finite (h : x.isFinite = true) :
    (x == 0.0) = true ∧ (0.0 == x) = true ∨
      ∃ sign mantissa exponent hpos, x.toModel.unpack = .finite sign mantissa exponent hpos := by
  change x.toModel.unpack.isFinite = true at h
  cases hx : x.toModel.unpack with
  | notANumber =>
      rw [hx] at h
      cases h
  | infinity sign =>
      rw [hx] at h
      cases h
  | zero sign =>
      left
      constructor
      · rw [beq_eq_compare, hx]
        rfl
      · rw [beq_eq_compare, hx]
        rfl
  | finite sign mantissa exponent hpos => exact .inr ⟨sign, mantissa, exponent, hpos, rfl⟩

end DraftLisp.Numeric

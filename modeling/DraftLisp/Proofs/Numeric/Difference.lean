import DraftLisp.Proofs.Numeric.Counting

namespace DraftLisp

namespace Numeric

open Float.Model (Format UnpackedFloat)
open Float.Model.UnpackedFloat

variable {x y : Float}

/-- Equal numbers are infinite with one sign, zeros of any signs, or the same float. -/
theorem beq_cases (h : (x == y) = true) :
    (∃ sign, x.toModel.unpack = .infinity sign ∧ y.toModel.unpack = .infinity sign) ∨
      (∃ sign other, x.toModel.unpack = .zero sign ∧ y.toModel.unpack = .zero other) ∨
      ∃ sign mantissa exponent hpos,
        x.toModel.unpack = .finite sign mantissa exponent hpos ∧ x = y := by
  have hcompare := h
  rw [beq_eq_compare, beq_iff_eq] at hcompare
  cases hy : y.toModel.unpack with
  | notANumber =>
      rw [hy] at hcompare
      cases hx : x.toModel.unpack <;> rw [hx] at hcompare <;> cases hcompare
  | infinity sign =>
      left
      rw [hy] at hcompare
      cases hx : x.toModel.unpack with
      | infinity other =>
          rw [hx] at hcompare
          cases sign <;> cases other
          · exact ⟨_, rfl, rfl⟩
          · cases hcompare
          · cases hcompare
          · exact ⟨_, rfl, rfl⟩
      | _ =>
          rw [hx] at hcompare
          cases sign <;> cases hcompare
  | zero sign =>
      right
      left
      rw [hy] at hcompare
      cases hx : x.toModel.unpack with
      | zero other => exact ⟨other, sign, rfl, rfl⟩
      | notANumber =>
          rw [hx] at hcompare
          cases hcompare
      | infinity other | finite other =>
          rw [hx] at hcompare
          cases other <;> cases hcompare
  | finite sign mantissa exponent hpos =>
      obtain rfl := eq_of_beq hy h
      exact .inr (.inr ⟨sign, mantissa, exponent, hpos, hy, rfl⟩)

/-- What is no number is equal to nothing, and nothing is equal to it. -/
theorem not_isNaN_of_beq (h : (x == y) = true) : x.isNaN = false ∧ y.isNaN = false := by
  change x.toModel.unpack.isNaN = false ∧ y.toModel.unpack.isNaN = false
  obtain ⟨sign, hx, hy⟩ | ⟨sign, other, hx, hy⟩ | ⟨sign, mantissa, exponent, hpos, hx, rfl⟩ :=
    beq_cases h
  · rw [hx, hy]
    exact ⟨rfl, rfl⟩
  · rw [hx, hy]
    exact ⟨rfl, rfl⟩
  · rw [hx]
    exact ⟨rfl, rfl⟩

theorem sub_self_finite (sign : Sign) {mantissa : Nat} (exponent : Int) (hpos : 0 < mantissa) :
    sub Format.binary64 (.finite sign mantissa exponent hpos)
      (.finite sign mantissa exponent hpos) = .zero .positive := by
  unfold sub
  dsimp only
  rw [sub_self]
  rfl

theorem abs_sub_of_beq (h : (x == y) = true) (hx : x.isInf = false) : (x - y).abs = 0.0 := by
  change x.toModel.unpack.isInf = false at hx
  change Float.ofModel (.pack (Float.Model.pack (sub Format.binary64 x.toModel.unpack
    y.toModel.unpack)).unpack.abs) = 0.0
  obtain ⟨sign, hxu, -⟩ | ⟨sign, other, hxu, hyu⟩ | ⟨sign, mantissa, exponent, hpos, hxu, rfl⟩ :=
    beq_cases h
  · rw [hxu] at hx
    cases hx
  · rw [hxu, hyu]
    cases sign <;> cases other <;> rfl
  · rw [hxu, sub_self_finite]
    rfl

theorem not_abs_sub_le_of_beq (h : (x == y) = true) (hx : x.isInf = true) (bound : Float) :
    ¬(x - y).abs ≤ bound := by
  change x.toModel.unpack.isInf = true at hx
  obtain ⟨sign, hxu, hyu⟩ | ⟨sign, other, hxu, -⟩ | ⟨sign, mantissa, exponent, hpos, hxu, -⟩ :=
    beq_cases h
  · -- The difference is no number, which no bound is compared with.
    have hnan : (x - y).abs.toModel.unpack = .notANumber := by
      change (Float.Model.pack (Float.Model.pack (sub Format.binary64 x.toModel.unpack
        y.toModel.unpack)).unpack.abs).unpack = _
      rw [hxu, hyu]
      cases sign <;> rfl
    rw [le_iff_isLE, hnan]
    exact Bool.false_ne_true
  · rw [hxu] at hx
    cases hx
  · rw [hxu] at hx
    cases hx

end Numeric

end DraftLisp

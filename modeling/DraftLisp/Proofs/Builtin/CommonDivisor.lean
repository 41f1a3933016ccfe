import DraftLisp.Proofs.Evaluation.Application
import DraftLisp.Proofs.Numeric.Integers

namespace DraftLisp.Builtin.Arithmetic

open Numeric

/-- The 64-bit integer that is nearest to an integer. -/
def saturated (n : Int) : Int := max (-2 ^ 63) (min (2 ^ 63 - 1) n)

variable {a b : Float} {m n : Int}

theorem toInt64_of_isInteger (h : IsInteger a m) : toInt64 a = saturated m :=
  h.clampInto _ _

theorem saturated_eq (h : m.natAbs < 2 ^ 63) : saturated m = m := by
  unfold saturated
  omega

theorem lt_saturated (h : -2 ^ 63 < n) : -2 ^ 63 < saturated n := by
  unfold saturated
  omega

theorem natAbs_magnitude (n : Int) : (magnitude n).natAbs = n.natAbs := by
  unfold magnitude
  split
  · rfl
  · exact Int.natAbs_natCast _

/-- The least 64-bit integer is the only one that is left negative. -/
theorem magnitude_nonneg (h : -2 ^ 63 < n) : 0 ≤ magnitude n := by
  unfold magnitude
  rw [if_neg (by omega)]
  exact Int.natCast_nonneg _

theorem natAbs_divisor (a b : Int) : (divisor a b).natAbs = Int.gcd a b := by
  induction a, b using divisor.induct with
  | case1 a =>
      rw [divisor, dif_pos rfl, Int.gcd_zero_right]
  | case2 a b hb ih =>
      rw [divisor, dif_neg hb, ih, Int.gcd_comm, Int.gcd_eq_natAbs_gcd_natAbs, Int.natAbs_tmod,
        ← Nat.gcd_rec, Int.gcd_comm, Int.gcd_eq_natAbs_gcd_natAbs]

theorem divisor_nonneg {a b : Int} (ha : 0 ≤ a) (hb : 0 ≤ b) : 0 ≤ divisor a b := by
  induction a, b using divisor.induct with
  | case1 a =>
      rw [divisor, dif_pos rfl]
      exact ha
  | case2 a b hne ih =>
      rw [divisor, dif_neg hne]
      exact ih hb (Int.tmod_nonneg b ha)

theorem commonDivisor_of_isInteger (ha : IsInteger a m) (hb : IsInteger b n) :
    commonDivisor a b =
      number (ofInt (divisor (magnitude (saturated m)) (magnitude (saturated n)))) := by
  unfold commonDivisor
  rw [ha.isWhole, hb.isWhole, toInt64_of_isInteger ha, toInt64_of_isInteger hb]
  rfl

theorem ofInt_of_nonneg {g : Int} (h : 0 ≤ g) : ofInt g = ofNat g.natAbs := by
  unfold ofInt
  rw [decide_eq_false h.not_gt]
  rfl

/-- A common divisor is not rounded. -/
theorem representable_gcd (ha : IsInteger a m) (hb : IsInteger b n) :
    Representable (Int.gcd m n) := by
  by_cases hm : m = 0
  · rw [hm, Int.gcd_zero_left]
    exact hb.representable
  · exact ha.representable.of_dvd (Int.natAbs_ne_zero.mpr hm) (Int.gcd_dvd_natAbs_left m n)

/-- The numbers that the operator counts with are the 64-bit integers nearest to its operands. -/
theorem gcd_eq (ev : Evaluator) (level : Nat) (state : State) (ha : IsInteger a m)
    (hb : IsInteger b n) :
    callNamed ev level "GCD" [.number a, .number b] state =
      .done (.ok (.number (ofInt (divisor (magnitude (saturated m)) (magnitude (saturated n))))))
        state := by
  refine callNamed_ok ev level (show find? "GCD" = some arithmetic[19] from rfl) rfl rfl ?_ state
  exact commonDivisor_of_isInteger ha hb

theorem natAbs_divisor_magnitude (m n : Int) :
    (divisor (magnitude m) (magnitude n)).natAbs = Int.gcd m n := by
  rw [natAbs_divisor, Int.gcd_eq_natAbs_gcd_natAbs, natAbs_magnitude, natAbs_magnitude]
  rfl

/-- Of two integers the operator gives the greatest common divisor, exactly and without a sign, if
both have less than 64 binary digits. In any case it gives that of the nearest 64-bit integers, up
to the sign, which can only be a minus if one of them is the least 64-bit integer. -/
theorem gives_commonDivisor (ev : Evaluator) (level : Nat) (state : State) (ha : IsInteger a m)
    (hb : IsInteger b n) :
    ∃ answer, callNamed ev level "GCD" [.number a, .number b] state =
        .done (.ok (.number answer)) state ∧
      (m.natAbs < 2 ^ 63 → n.natAbs < 2 ^ 63 →
        answer = ofNat (Int.gcd m n) ∧ IsInteger answer (Int.gcd m n)) ∧
      ∃ g, answer = ofInt g ∧ g.natAbs = Int.gcd (saturated m) (saturated n) ∧
        (-2 ^ 63 < m → -2 ^ 63 < n → 0 ≤ g) := by
  have hsign (hm : -2 ^ 63 < m) (hn : -2 ^ 63 < n) :
      0 ≤ divisor (magnitude (saturated m)) (magnitude (saturated n)) :=
    divisor_nonneg (magnitude_nonneg (lt_saturated hm)) (magnitude_nonneg (lt_saturated hn))
  refine ⟨_, gcd_eq ev level state ha hb, fun hm hn => ?_,
    _, rfl, natAbs_divisor_magnitude _ _, hsign⟩
  have hanswer : ofInt (divisor (magnitude (saturated m)) (magnitude (saturated n))) =
      ofNat (Int.gcd m n) := by
    rw [ofInt_of_nonneg (hsign (by omega) (by omega)), natAbs_divisor_magnitude,
      saturated_eq hm, saturated_eq hn]
  rw [hanswer]
  exact ⟨rfl, isInteger_ofNat (representable_gcd ha hb)⟩

/-- The greatest common divisor of the greatest power of two below the limit and a negative
number. -/
theorem gives_commonDivisor_large :
    (IsInteger (ofNat (2 ^ 62)) (2 ^ 62) ∧ IsInteger (-12.0) (-12)) ∧
      ∃ answer, callNamed (fun _ _ => .pure .nil) 0 "GCD"
          [.number (ofNat (2 ^ 62)), .number (-12.0)] default =
            .done (.ok (.number answer)) default ∧
        answer = ofNat 4 ∧ IsInteger answer 4 := by
  have hlarge : IsInteger (ofNat (2 ^ 62)) (2 ^ 62 : Nat) :=
    isInteger_ofNat ⟨1, 62, by decide, by decide, by decide⟩
  have hnegative : IsInteger (-12.0) (-12) := ⟨⟨true, 0x18000000000000, -49⟩, rfl, by decide⟩
  obtain ⟨answer, hcall, hexact, -⟩ :=
    gives_commonDivisor (fun _ _ => .pure .nil) 0 default hlarge hnegative
  exact ⟨⟨hlarge, hnegative⟩, answer, hcall, hexact (by decide) (by decide)⟩

/-- Beyond 64 bits another number is counted with, which need not have the same divisors. -/
theorem not_gives_commonDivisor :
    ¬∀ (a b : Float) (m n : Int), IsInteger a m → IsInteger b n →
      ∃ answer, callNamed (fun _ _ => .pure .nil) 0 "GCD" [.number a, .number b] default =
          .done (.ok (.number answer)) default ∧
        IsInteger answer (Int.gcd m n) := by
  intro h
  have hbeyond : IsInteger (ofNat (2 ^ 63)) (2 ^ 63 : Nat) :=
    isInteger_ofNat ⟨1, 63, by decide, by decide, by decide⟩
  have htwo : IsInteger (ofNat 2) (2 : Nat) :=
    isInteger_ofNat ⟨2, 0, by decide, by decide, by decide⟩
  obtain ⟨answer, hcall, hanswer⟩ := h _ _ _ _ hbeyond htwo
  rw [gcd_eq _ 0 default hbeyond htwo] at hcall
  have hvalue := Value.number.inj (Except.ok.inj (Run.done.inj hcall).1)
  have hone : IsInteger (ofNat 1) (1 : Nat) :=
    isInteger_ofNat ⟨1, 0, by decide, by decide, by decide⟩
  rw [← hvalue, ofInt_of_nonneg (divisor_nonneg (by decide) (by decide)),
    natAbs_divisor_magnitude] at hanswer
  exact absurd (hanswer.unique hone) (by decide)

end DraftLisp.Builtin.Arithmetic

import Mathlib.Data.Nat.Factorization.Basic
import Mathlib.Tactic.Ring
import DraftLisp.Numeric.Shortest

namespace DraftLisp.Numeric

theorem digitsValue_eq_ofDigitChars (digits : List Char) :
    digitsValue digits = Nat.ofDigitChars 10 digits 0 := by
  simp only [digitsValue, Nat.ofDigitChars, Nat.mul_comm]

theorem digitsValue_digitChars (n : Nat) : digitsValue (digitChars n) = n := by
  rw [digitsValue_eq_ofDigitChars]
  exact Nat.ofDigitChars_ten_toDigits

theorem digitsValue_zeros_append (count : Nat) (digits : List Char) :
    digitsValue (List.replicate count '0' ++ digits) = digitsValue digits := by
  simp only [digitsValue_eq_ofDigitChars, Nat.ofDigitChars_append,
    Nat.ofDigitChars_replicate_zero, Nat.mul_zero]

theorem isDigit_of_mem_digitChars {n : Nat} {c : Char} (h : c ∈ digitChars n) :
    c.isDigit = true :=
  Nat.isDigit_of_mem_toDigits (by decide) (by decide) h

theorem digitCount_pos (n : Nat) : 0 < digitCount n := Nat.length_toDigits_pos

theorem digitCount_le_iff {n count : Nat} (hcount : 0 < count) :
    digitCount n ≤ count ↔ n < 10 ^ count :=
  Nat.length_toDigits_le_iff (by decide) hcount

theorem lt_pow_digitCount (n : Nat) : n < 10 ^ digitCount n :=
  (digitCount_le_iff (digitCount_pos n)).mp le_rfl

theorem pow_digitCount_le {n : Nat} (hn : 0 < n) : 10 ^ (digitCount n - 1) ≤ n := by
  by_cases hcount : digitCount n - 1 = 0
  · rw [hcount]
    exact hn
  · rw [← not_lt, ← digitCount_le_iff (Nat.pos_of_ne_zero hcount)]
    omega

theorem digitChars_mul_pow {n : Nat} (hn : 0 < n) (zeros : Nat) :
    digitChars (n * 10 ^ zeros) = digitChars n ++ List.replicate zeros '0' := by
  induction zeros with
  | zero => simp
  | succ zeros ih =>
      have hpos : 0 < n * 10 ^ zeros := Nat.mul_pos hn (Nat.pow_pos (by decide))
      have hstep : n * 10 ^ (zeros + 1) = 10 * (n * 10 ^ zeros) + 0 := by
        rw [Nat.pow_succ]
        ring
      rw [hstep]
      unfold digitChars at *
      rw [← Nat.toDigits_append_toDigits (by decide) hpos (by decide), ih, Nat.toDigits_zero,
        List.append_assoc, List.replicate_succ']

theorem dropWhile_zero_reverse_digitChars {n : Nat} (hn : n % 10 ≠ 0) :
    (digitChars n).reverse.dropWhile (· = '0') = (digitChars n).reverse := by
  have hdigit : ∀ d < 10, d ≠ 0 → Nat.digitChar d ≠ '0' := by decide
  have hlast := hdigit (n % 10) (Nat.mod_lt _ (by decide)) hn
  unfold digitChars
  by_cases hlt : n < 10
  · rw [Nat.mod_eq_of_lt hlt] at hlast
    simp [Nat.toDigits_of_lt_base hlt, hlast]
  · rw [Nat.toDigits_of_base_le (by decide) (Nat.le_of_not_lt hlt)]
    simp [hlast]

namespace Decimal

/-- Zeros around the digits move the point or count for nothing. -/
theorem ofDigits_zeros {n : Nat} (hn : n % 10 ≠ 0) (negative : Bool) (before after : Nat)
    (exponent : Int) :
    ofDigits negative
        (List.replicate before '0' ++ (digitChars n ++ List.replicate after '0')) exponent =
      ⟨negative, n, exponent + after⟩ := by
  have hkept : ((List.replicate before '0' ++
      (digitChars n ++ List.replicate after '0')).reverse.dropWhile (· = '0')).reverse =
        List.replicate before '0' ++ digitChars n := by
    have hzeros : ∀ c ∈ (List.replicate after '0').reverse, decide (c = '0') = true := by
      simp
    have hne : (digitChars n).reverse.isEmpty = false := by simp [digitChars]
    rw [List.reverse_append, List.reverse_append, List.append_assoc,
      List.dropWhile_append_of_pos hzeros, List.dropWhile_append,
      dropWhile_zero_reverse_digitChars hn, hne]
    simp
  have hpos : n ≠ 0 := by
    rintro rfl
    exact hn rfl
  unfold ofDigits
  simp only [hkept, digitsValue_zeros_append, digitsValue_digitChars]
  rw [if_neg hpos]
  simp only [List.length_append, List.length_replicate, Decimal.mk.injEq, true_and]
  omega

/-- The numeral of a positive number has its digits without the zeros at the end. -/
theorem ofDigits_digitChars {n : Nat} (hn : 0 < n) (negative : Bool) (exponent : Int) :
    ∃ kept zeros : Nat, n = kept * 10 ^ zeros ∧ kept % 10 ≠ 0 ∧
      ofDigits negative (digitChars n) exponent = ⟨negative, kept, exponent + zeros⟩ := by
  obtain ⟨zeros, kept, hkept, heq⟩ := Nat.exists_eq_pow_mul_and_not_dvd hn.ne' 10 (by decide)
  rw [Nat.dvd_iff_mod_eq_zero] at hkept
  have hpos : 0 < kept := Nat.pos_of_ne_zero fun h => hkept (by rw [h])
  rw [Nat.mul_comm] at heq
  refine ⟨kept, zeros, heq, hkept, ?_⟩
  rw [heq, digitChars_mul_pow hpos]
  exact ofDigits_zeros hkept negative 0 zeros exponent

end Decimal

theorem span_digits {digits rest : List Char} (hdigits : ∀ c ∈ digits, c.isDigit = true)
    (hrest : ∀ c ∈ rest.head?, c.isDigit = false) :
    (digits ++ rest).span Char.isDigit = (digits, rest) := by
  rw [List.span_eq_takeWhile_dropWhile, List.takeWhile_append_of_pos hdigits,
    List.dropWhile_append_of_pos hdigits]
  cases rest with
  | nil => simp
  | cons c rest =>
      have hc := hrest c rfl
      simp [hc]

theorem splitSign_signChars (negative : Bool) {digits : List Char}
    (hdigits : ∀ c ∈ digits.head?, c.isDigit = true) :
    splitSign (signChars negative ++ digits) = (negative, digits) := by
  cases negative with
  | true => rfl
  | false =>
      change splitSign digits = _
      unfold splitSign
      split
      · exact absurd (hdigits '-' rfl) (by decide)
      · exact absurd (hdigits '+' rfl) (by decide)
      · rfl

theorem head?_append_isDigit {whole : List Char} (hwhole : ∀ c ∈ whole, c.isDigit = true)
    (hne : whole ≠ []) (rest : List Char) :
    ∀ c ∈ (whole ++ rest).head?, c.isDigit = true := by
  obtain ⟨first, others, rfl⟩ := List.exists_cons_of_ne_nil hne
  simpa using hwhole first (by simp)

theorem readDecimal?_whole (negative : Bool) {whole : List Char}
    (hwhole : ∀ c ∈ whole, c.isDigit = true) (hne : whole ≠ []) :
    readDecimal? (signChars negative ++ whole) = some (.ofRun negative whole 0) := by
  have hsplit := splitSign_signChars negative (head?_append_isDigit hwhole hne [])
  have hspan : (whole ++ []).span Char.isDigit = (whole, []) := span_digits hwhole (by simp)
  rw [List.append_nil] at hsplit hspan
  unfold readDecimal?
  simp only [hsplit, hspan, splitFraction, readExponent?, Option.map_some]
  rw [if_neg (by simp [hne]), List.append_nil]
  rfl

theorem readDecimal?_fraction (negative : Bool) {whole fraction : List Char}
    (hwhole : ∀ c ∈ whole, c.isDigit = true) (hne : whole ≠ [])
    (hfraction : ∀ c ∈ fraction, c.isDigit = true) :
    readDecimal? (signChars negative ++ (whole ++ '.' :: fraction)) =
      some (.ofRun negative (whole ++ fraction) (-fraction.length)) := by
  have hsplit := splitSign_signChars negative (head?_append_isDigit hwhole hne ('.' :: fraction))
  have hspan : (whole ++ '.' :: fraction).span Char.isDigit = (whole, '.' :: fraction) :=
    span_digits hwhole (by simp)
  have hspanFraction : (fraction ++ []).span Char.isDigit = (fraction, []) :=
    span_digits hfraction (by simp)
  rw [List.append_nil] at hspanFraction
  unfold readDecimal?
  simp only [hsplit, hspan, splitFraction, hspanFraction, readExponent?, Option.map_some]
  rw [if_neg (by simp [hne]), Int.zero_sub]

theorem isDigit_of_mem_zeros {count : Nat} {c : Char} (h : c ∈ List.replicate count '0') :
    c.isDigit = true := by
  rw [(List.mem_replicate.mp h).2]
  decide

theorem Decimal.ofRun_zeros {n : Nat} (hn : n % 10 ≠ 0) (negative : Bool) (before after : Nat)
    (exponent : Int) (hlength : before + digitCount n + after ≤ lengthLimit) :
    ofRun negative
        (List.replicate before '0' ++ (digitChars n ++ List.replicate after '0')) exponent =
      ⟨negative, n, exponent + after⟩ := by
  unfold ofRun
  rw [if_pos, ofDigits_zeros hn]
  simp only [List.length_append, List.length_replicate]
  change before + (digitCount n + after) ≤ lengthLimit
  omega

/-- The written form of a numeral is read as the numeral, unless it is extremely long. -/
theorem readDecimal?_positional {n : Nat} (hn : n % 10 ≠ 0) (negative : Bool) {exponent : Int}
    (hlong : digitCount n + exponent ≤ Decimal.lengthLimit)
    (hshort : digitCount n ≤ Decimal.lengthLimit) (hsmall : 1 - exponent ≤ Decimal.lengthLimit) :
    readDecimal? (signChars negative ++ positional (digitChars n) exponent) =
      some ⟨negative, n, exponent⟩ := by
  have hlength : (digitChars n).length = digitCount n := rfl
  have hdigits : ∀ c ∈ digitChars n, c.isDigit = true := fun c => isDigit_of_mem_digitChars
  unfold positional
  simp only [hlength]
  split
  · rename_i hexponent
    have hwhole : ∀ c ∈ digitChars n ++ List.replicate exponent.toNat '0', c.isDigit = true := by
      intro c hc
      rcases List.mem_append.mp hc with hdigit | hzero
      · exact hdigits c hdigit
      · exact isDigit_of_mem_zeros hzero
    have hrun := Decimal.ofRun_zeros hn negative 0 exponent.toNat 0 (by omega)
    rw [List.replicate_zero, List.nil_append] at hrun
    rw [readDecimal?_whole negative hwhole (by simp [digitChars]), hrun]
    simp only [Option.some.injEq, Decimal.mk.injEq, true_and]
    omega
  · rename_i hexponent
    split
    · rename_i hpoint
      have hrun := Decimal.ofRun_zeros hn negative 0 0
        (-((digitChars n).drop (digitCount n + exponent).toNat).length) (by omega)
      rw [List.replicate_zero, List.nil_append, List.append_nil] at hrun
      rw [readDecimal?_fraction negative, List.take_append_drop, hrun]
      · simp only [List.length_drop, hlength, Option.some.injEq, Decimal.mk.injEq, true_and]
        omega
      · exact fun c hc => hdigits c (List.mem_of_mem_take hc)
      · simp only [ne_eq, List.take_eq_nil_iff, not_or]
        exact ⟨by omega, Nat.toDigits_ne_nil⟩
      · exact fun c hc => hdigits c (List.mem_of_mem_drop hc)
    · rename_i hpoint
      have hfraction : ∀ c ∈ List.replicate (-(digitCount n + exponent)).toNat '0' ++ digitChars n,
          c.isDigit = true := by
        intro c hc
        rcases List.mem_append.mp hc with hzero | hdigit
        · exact isDigit_of_mem_zeros hzero
        · exact hdigits c hdigit
      have hrun := Decimal.ofRun_zeros hn negative ((-(digitCount n + exponent)).toNat + 1) 0
        (-(List.replicate (-(digitCount n + exponent)).toNat '0' ++ digitChars n).length) (by omega)
      rw [List.replicate_succ, List.replicate_zero, List.append_nil, List.cons_append] at hrun
      have hzero : ∀ c ∈ ['0'], c.isDigit = true := by simp
      have hread := readDecimal?_fraction negative hzero (by simp) hfraction
      rw [List.singleton_append, List.singleton_append] at hread
      rw [hread, hrun]
      simp only [List.length_append, List.length_replicate, hlength, Option.some.injEq,
        Decimal.mk.injEq, true_and]
      omega

end DraftLisp.Numeric

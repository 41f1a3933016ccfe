import Mathlib.Data.List.TakeDrop
import DraftLisp.Numeric.Decimal
import DraftLisp.Proofs.Text.Casing

namespace DraftLisp.Numeric

def isNumeric (c : Char) : Bool :=
  c.isDigit || c = '+' || c = '-' || c = '.' || c = 'e' || c = 'E'

theorem toNat_of_isNumeric {c : Char} (h : isNumeric c = true) :
    c.toNat < 0x41 ∨ c.toNat = 0x45 ∨ c.toNat = 0x65 := by
  simp only [isNumeric, Bool.or_eq_true, decide_eq_true_eq] at h
  rcases h with ((((hdigit | rfl) | rfl) | rfl) | rfl) | rfl
  · left
    simp only [Char.isDigit, ge_iff_le, Bool.and_eq_true, decide_eq_true_eq] at hdigit
    have hle : c.toNat ≤ '9'.toNat := hdigit.2
    exact Nat.lt_of_le_of_lt hle (by decide)
  · decide
  · decide
  · decide
  · decide
  · decide

theorem isNumeric_of_isDigit {c : Char} (h : c.isDigit = true) : isNumeric c = true := by
  simp [isNumeric, h]

theorem mem_splitSign {chars : List Char} {c : Char} (h : c ∈ chars) :
    isNumeric c = true ∨ c ∈ (splitSign chars).2 := by
  unfold splitSign
  split
  · rcases List.mem_cons.mp h with rfl | hrest
    · exact .inl rfl
    · exact .inr hrest
  · rcases List.mem_cons.mp h with rfl | hrest
    · exact .inl rfl
    · exact .inr hrest
  · exact .inr h

theorem mem_span_isDigit {chars : List Char} {c : Char} (h : c ∈ chars) :
    isNumeric c = true ∨ c ∈ (chars.span Char.isDigit).2 := by
  rw [List.span_eq_takeWhile_dropWhile]
  rw [← List.takeWhile_append_dropWhile (p := Char.isDigit) (l := chars)] at h
  rcases List.mem_append.mp h with hdigit | hrest
  · exact .inl (isNumeric_of_isDigit (List.all_eq_true.mp List.all_takeWhile c hdigit))
  · exact .inr hrest

theorem mem_splitFraction {chars : List Char} {c : Char} (h : c ∈ chars) :
    isNumeric c = true ∨ c ∈ (splitFraction chars).2 := by
  unfold splitFraction
  split
  · rcases List.mem_cons.mp h with rfl | hrest
    · exact .inl rfl
    · exact mem_span_isDigit hrest
  · exact .inr h

theorem isNumeric_of_readExponent? {chars : List Char} {exponent : Int}
    (h : readExponent? chars = some exponent) {c : Char} (hc : c ∈ chars) :
    isNumeric c = true := by
  cases chars with
  | nil => cases hc
  | cons mark rest =>
      unfold readExponent? at h
      dsimp only at h
      split at h
      · rename_i hshape
        obtain ⟨hmark, -, hdigits⟩ := hshape
        rcases List.mem_cons.mp hc with rfl | hrest
        · rcases hmark with rfl | rfl <;> rfl
        · rcases mem_splitSign hrest with hnumeric | hdigit
          · exact hnumeric
          · exact isNumeric_of_isDigit (List.all_eq_true.mp hdigits c hdigit)
      · cases h

theorem isNumeric_of_readDecimal? {chars : List Char} {d : Decimal}
    (h : readDecimal? chars = some d) {c : Char} (hc : c ∈ chars) : isNumeric c = true := by
  unfold readDecimal? at h
  dsimp only at h
  split at h
  · cases h
  · obtain ⟨exponent, hexponent, -⟩ := Option.map_eq_some_iff.mp h
    rcases mem_splitSign hc with hnumeric | hunsigned
    · exact hnumeric
    · rcases mem_span_isDigit hunsigned with hnumeric | hwhole
      · exact hnumeric
      · rcases mem_splitFraction hwhole with hnumeric | hfraction
        · exact hnumeric
        · exact isNumeric_of_readExponent? hexponent hfraction

/-- A character and its uppercase form have the same meaning in numerals. -/
structure SameInNumerals (c : Char) : Prop where
  minus : c.toUpper = '-' ↔ c = '-'
  plus : c.toUpper = '+' ↔ c = '+'
  point : c.toUpper = '.' ↔ c = '.'
  exponent : (c.toUpper = 'e' ∨ c.toUpper = 'E') ↔ (c = 'e' ∨ c = 'E')
  isDigit : c.toUpper.isDigit = c.isDigit
  digit : c.isDigit = true → c.toUpper = c

theorem toUpper_of_not_ascii {c : Char} (hc : 128 ≤ c.toNat) : c.toUpper = c := by
  unfold Char.toUpper
  rw [dif_neg]
  rintro ⟨-, hle⟩
  have hle : c.toNat ≤ 'z'.toNat := hle
  exact absurd (Nat.le_trans hc hle) (by decide)

theorem sameInNumerals (c : Char) : SameInNumerals c := by
  rcases Nat.lt_or_ge c.toNat 128 with hc | hc
  · have hminus : ∀ n < 128, (Char.ofNat n).toUpper = '-' ↔ Char.ofNat n = '-' := by decide
    have hplus : ∀ n < 128, (Char.ofNat n).toUpper = '+' ↔ Char.ofNat n = '+' := by decide
    have hpoint : ∀ n < 128, (Char.ofNat n).toUpper = '.' ↔ Char.ofNat n = '.' := by decide
    have hexponent : ∀ n < 128, ((Char.ofNat n).toUpper = 'e' ∨ (Char.ofNat n).toUpper = 'E') ↔
        (Char.ofNat n = 'e' ∨ Char.ofNat n = 'E') := by decide
    have hisDigit : ∀ n < 128, (Char.ofNat n).toUpper.isDigit = (Char.ofNat n).isDigit := by decide
    have hdigit : ∀ n < 128, (Char.ofNat n).isDigit = true →
        (Char.ofNat n).toUpper = Char.ofNat n := by decide
    have hsame : ∀ n < 128, SameInNumerals (Char.ofNat n) := fun n hn =>
      ⟨hminus n hn, hplus n hn, hpoint n hn, hexponent n hn, hisDigit n hn, hdigit n hn⟩
    exact Text.Casing.forall_ascii hsame hc
  · have hsame := toUpper_of_not_ascii hc
    constructor <;> simp only [hsame, implies_true]

theorem splitSign_of_ne {c : Char} (hminus : c ≠ '-') (hplus : c ≠ '+') (rest : List Char) :
    splitSign (c :: rest) = (false, c :: rest) := by
  unfold splitSign
  split
  · rename_i h
    cases h
    exact absurd rfl hminus
  · rename_i h
    cases h
    exact absurd rfl hplus
  · rfl

theorem splitSign_map_toUpper (chars : List Char) :
    splitSign (chars.map Char.toUpper) =
      ((splitSign chars).1, (splitSign chars).2.map Char.toUpper) := by
  cases chars with
  | nil => rfl
  | cons c rest =>
      have hsame := sameInNumerals c
      by_cases hminus : c = '-'
      · subst hminus
        rfl
      · by_cases hplus : c = '+'
        · subst hplus
          rfl
        · rw [List.map_cons, splitSign_of_ne (mt hsame.minus.mp hminus) (mt hsame.plus.mp hplus),
            splitSign_of_ne hminus hplus]
          rfl

theorem map_toUpper_of_digits {digits : List Char} (h : ∀ c ∈ digits, c.isDigit = true) :
    digits.map Char.toUpper = digits := by
  have hself : ∀ c ∈ digits, c.toUpper = id c := fun c hc => (sameInNumerals c).digit (h c hc)
  rw [List.map_congr_left hself, List.map_id]

theorem isDigit_comp_toUpper : Char.isDigit ∘ Char.toUpper = Char.isDigit := by
  funext c
  exact (sameInNumerals c).isDigit

theorem span_map_toUpper (chars : List Char) :
    (chars.map Char.toUpper).span Char.isDigit =
      ((chars.span Char.isDigit).1, (chars.span Char.isDigit).2.map Char.toUpper) := by
  simp only [List.span_eq_takeWhile_dropWhile, List.takeWhile_map, List.dropWhile_map,
    isDigit_comp_toUpper]
  rw [map_toUpper_of_digits (List.all_eq_true.mp List.all_takeWhile)]

theorem splitFraction_of_ne {c : Char} (hpoint : c ≠ '.') (rest : List Char) :
    splitFraction (c :: rest) = ([], c :: rest) := by
  unfold splitFraction
  split
  · rename_i h
    cases h
    exact absurd rfl hpoint
  · rfl

theorem splitFraction_map_toUpper (chars : List Char) :
    splitFraction (chars.map Char.toUpper) =
      ((splitFraction chars).1, (splitFraction chars).2.map Char.toUpper) := by
  cases chars with
  | nil => rfl
  | cons c rest =>
      by_cases hpoint : c = '.'
      · subst hpoint
        exact span_map_toUpper rest
      · rw [List.map_cons, splitFraction_of_ne (mt (sameInNumerals c).point.mp hpoint),
          splitFraction_of_ne hpoint]
        rfl

theorem readExponent?_map_toUpper (chars : List Char) :
    readExponent? (chars.map Char.toUpper) = readExponent? chars := by
  cases chars with
  | nil => rfl
  | cons mark rest =>
      have hmark := (sameInNumerals mark).exponent
      have hdigits : ((splitSign rest).2.map Char.toUpper).all Char.isDigit =
          (splitSign rest).2.all Char.isDigit := by
        rw [List.all_map, isDigit_comp_toUpper]
      unfold readExponent?
      simp only [List.map_cons, splitSign_map_toUpper, hmark, hdigits, ne_eq, List.map_eq_nil_iff]
      split
      · rename_i h
        rw [map_toUpper_of_digits (List.all_eq_true.mp h.2.2)]
      · rfl

theorem readDecimal?_map_toUpper (chars : List Char) :
    readDecimal? (chars.map Char.toUpper) = readDecimal? chars := by
  unfold readDecimal?
  simp only [splitSign_map_toUpper, span_map_toUpper, splitFraction_map_toUpper,
    readExponent?_map_toUpper]

theorem not_finite_of_readWord? {chars : List Char} {x : Float} (h : readWord? chars = some x) :
    x.isFinite = false := by
  unfold readWord? at h
  dsimp only at h
  split at h
  · cases h
    split <;> rfl
  · cases h
    split <;> rfl
  · cases h
    rfl
  · cases h

theorem readFinite?_eq_some_iff {chars : List Char} {x : Float} :
    readFinite? chars = some x ↔
      ∃ d, readDecimal? chars = some d ∧ d.toFloat = x ∧ x.isFinite = true := by
  unfold readFinite? readFloat?
  cases hread : readDecimal? chars with
  | some d =>
      simp only [Option.filter_eq_some_iff, Option.some.injEq, exists_eq_left']
  | none =>
      simp only [Option.filter_eq_some_iff, reduceCtorEq, false_and, exists_false, iff_false]
      rintro ⟨hword, hfinite⟩
      rw [not_finite_of_readWord? hword] at hfinite
      cases hfinite

/-- Nothing becomes a number by being written in uppercase. -/
theorem readFinite?_of_upperChars {chars : List Char} {x : Float}
    (h : readFinite? (Text.Casing.upperChars chars) = some x) : readFinite? chars = some x := by
  obtain ⟨d, hread, hfloat⟩ := readFinite?_eq_some_iff.mp h
  have hascii : ∀ c ∈ chars, c.toNat < 128 := by
    intro c hc
    refine Nat.lt_of_not_le fun hlarge => ?_
    obtain ⟨u, hu⟩ := List.exists_mem_of_ne_nil _ (Text.Casing.upperChar_ne_nil c)
    have hnumeric := isNumeric_of_readDecimal? hread (List.mem_flatMap.mpr ⟨c, hc, hu⟩)
    have hsmall := toNat_of_isNumeric hnumeric
    rcases Text.Casing.mem_upperChar_cases hlarge hu with ⟨rfl, -⟩ | ⟨code, hfree, rfl⟩
    · omega
    · rw [hfree.toNat_ofNat] at hsmall
      have hreserved := hfree.not_reserved
      omega
  rw [Text.Casing.upperChars_of_ascii hascii, readDecimal?_map_toUpper] at hread
  exact readFinite?_eq_some_iff.mpr ⟨d, hread, hfloat⟩

end DraftLisp.Numeric

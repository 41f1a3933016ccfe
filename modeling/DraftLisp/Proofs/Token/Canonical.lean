import DraftLisp.Proofs.Numeric.NumeralCase
import DraftLisp.Token.Lexer

namespace DraftLisp.Token

open Text.Casing (upperChar upperChars Free)

structure Atomic (chars : List Char) : Prop where
  ne_nil : chars ≠ []
  plain : ∀ c ∈ chars, isDelimiter c = false

theorem atomic_takeWhile {c : Char} (hc : isDelimiter c = false) (rest : List Char) :
    Atomic (c :: rest.takeWhile (!isDelimiter ·)) := by
  refine ⟨by simp, fun other hother => ?_⟩
  rcases List.mem_cons.mp hother with rfl | hother
  · exact hc
  · simpa using List.all_eq_true.mp List.all_takeWhile other hother

/-- A name that is read as the symbol of this name. -/
structure IsName (name : String) : Prop where
  atomic : Atomic name.toList
  reads : ofAtom name.toList = .symbol name

theorem atomic_of_plain {chars : List Char} (hne : chars ≠ [])
    (hplain : chars.all (!isDelimiter ·) = true) : Atomic chars := by
  refine ⟨hne, fun c hc => ?_⟩
  simpa using List.all_eq_true.mp hplain c hc

theorem isName_of_plain {name : String} (hne : name.toList ≠ [])
    (hplain : name.toList.all (!isDelimiter ·) = true)
    (hreads : ofAtom name.toList = .symbol name) : IsName name :=
  ⟨atomic_of_plain hne hplain, hreads⟩

def Canonical : Token → Prop
  | .number value => value.isFinite = true
  | .symbol name => IsName name
  | _ => True

theorem isDelimiter_of_free {code : Nat} (h : Free code) :
    isDelimiter (Char.ofNat code) = false := by
  obtain ⟨hcontrol, -, hsmall, -⟩ := h.not_reserved
  have htoNat := h.toNat_ofNat
  have hblank : Text.isBlank (Char.ofNat code) = false := by
    rw [Bool.eq_false_iff]
    intro hblank
    obtain ⟨range, hrange, hfirst, hlast⟩ := (Text.inRanges_iff _ _).mp hblank
    rw [htoNat] at hfirst hlast
    have hreserved := h.not_covers ⟨range.first, range.last, 1, 0⟩
      (List.mem_append_right _ (List.mem_append_right _ (List.mem_map_of_mem hrange)))
    simp [Text.Casing.Run.covers, Nat.mod_one, hfirst] at hreserved
    omega
  have hmark : ∀ mark ∈ ['(', ')', '\'', '"', ';'], Char.ofNat code ≠ mark := by
    intro mark hmark heq
    have hsmall : ['(', ')', '\'', '"', ';'].all (·.toNat < 0x41) = true := by decide
    have hlt := of_decide_eq_true (List.all_eq_true.mp hsmall mark hmark)
    rw [← heq, htoNat] at hlt
    omega
  simp only [List.mem_cons, List.not_mem_nil, or_false, forall_eq_or_imp, forall_eq] at hmark
  simp [isDelimiter, hblank, hmark]

theorem isDelimiter_of_mem_upperChar {c u : Char} (hc : isDelimiter c = false)
    (hu : u ∈ upperChar c) : isDelimiter u = false := by
  rcases Nat.lt_or_ge c.toNat 128 with hascii | hlarge
  · rw [Text.Casing.upperChar_of_ascii hascii, List.mem_singleton] at hu
    subst hu
    have hsame : ∀ n < 128, isDelimiter (Char.ofNat n) = false →
        isDelimiter (Char.ofNat n).toUpper = false := by
      decide +kernel
    exact Text.Casing.forall_ascii
      (p := fun c => isDelimiter c = false → isDelimiter c.toUpper = false) hsame hascii hc
  · rcases Text.Casing.mem_upperChar_cases hlarge hu with ⟨rfl, -⟩ | ⟨code, hfree, rfl⟩
    · exact hc
    · exact isDelimiter_of_free hfree

theorem Atomic.upperChars {chars : List Char} (h : Atomic chars) : Atomic (upperChars chars) := by
  constructor
  · obtain ⟨c, rest, rfl⟩ := List.exists_cons_of_ne_nil h.ne_nil
    intro hnil
    exact Text.Casing.upperChar_ne_nil c (List.append_eq_nil_iff.mp hnil).1
  · intro u hu
    obtain ⟨c, hc, hmem⟩ := List.mem_flatMap.mp hu
    exact isDelimiter_of_mem_upperChar (h.plain c hc) hmem

theorem ofAtom_of_not_finite {atom : List Char} (h : Numeric.readFinite? atom = none) :
    ofAtom atom = .symbol (String.ofList (upperChars atom)) := by
  unfold ofAtom
  rw [h]
  simp [Text.upper]

/-- What is not a number in a text is no number in uppercase either. -/
theorem isName_of_not_finite {atom : List Char} (hatomic : Atomic atom)
    (h : Numeric.readFinite? atom = none) : IsName (String.ofList (upperChars atom)) := by
  have hnone : Numeric.readFinite? (upperChars atom) = none := by
    rw [Option.eq_none_iff_forall_ne_some]
    intro x hx
    rw [Numeric.readFinite?_of_upperChars hx] at h
    cases h
  constructor
  · rw [String.toList_ofList]
    exact hatomic.upperChars
  · rw [String.toList_ofList, ofAtom_of_not_finite hnone, Text.Casing.upperChars_upperChars]

theorem canonical_ofAtom {atom : List Char} (hatomic : Atomic atom) : (ofAtom atom).Canonical := by
  cases hread : Numeric.readFinite? atom with
  | some x =>
      obtain ⟨-, -, -, hfinite⟩ := Numeric.readFinite?_eq_some_iff.mp hread
      unfold ofAtom
      rw [hread]
      exact hfinite
  | none =>
      rw [ofAtom_of_not_finite hread]
      exact isName_of_not_finite hatomic hread

theorem canonical_scanOne {c : Char} {rest after : List Char} {token : Token}
    (h : scanOne c rest = .ok (token, after)) : token.Canonical := by
  unfold scanOne at h
  split at h
  · cases h
    trivial
  · split at h
    · cases h
      trivial
    · split at h
      · cases h
        trivial
      · split at h
        · split at h
          · cases h
            trivial
          · cases h
        · split at h
          · cases h
          · rename_i hdelimiter
            cases h
            exact canonical_ofAtom (atomic_takeWhile (by simpa using hdelimiter) rest)

theorem canonical_scan {chars : List Char} {tokens : List Token} (h : scan chars = .ok tokens) :
    ∀ token ∈ tokens, token.Canonical := by
  fun_induction scan chars generalizing tokens with
  | case1 chars hgaps =>
      cases h
      intro token hmem
      cases hmem
  | case2 chars c rest hgaps fault hone => cases h
  | case3 chars c rest hgaps token after hone failure hafter ih => cases h
  | case4 chars c rest hgaps token after hone tokens hafter ih =>
      cases h
      intro other hmem
      rcases List.mem_cons.mp hmem with rfl | hmem
      · exact canonical_scanOne hone
      · exact ih hafter other hmem

theorem tokenize_eq_ok_iff {input : String} {tokens : List Token} :
    tokenize input = .ok tokens ↔ scan input.toList = .ok tokens := by
  unfold tokenize
  split <;> simp [*]

end DraftLisp.Token

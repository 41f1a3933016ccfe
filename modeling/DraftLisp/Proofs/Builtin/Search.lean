import Mathlib.Order.Lattice.Nat
import DraftLisp.Proofs.Evaluation.Given
import DraftLisp.Proofs.Numeric.Counting

namespace DraftLisp

namespace Builtin.Strings

/-- The pattern stands in the text behind as many characters. -/
def Occurs (pattern text : List Char) (place : Nat) : Prop :=
  place ≤ text.length ∧ pattern <+: text.drop place

/-- The places of the pattern that are not before one. -/
def places (pattern text : List Char) (first : Nat) : Set Nat :=
  { place | first ≤ place ∧ Occurs pattern text place }

variable {pattern text : List Char} {first found : Nat}

theorem isLeast_places (h : Occurs pattern text first) :
    IsLeast (places pattern text first) first :=
  ⟨⟨Nat.le_refl first, h⟩, fun _ hplace => hplace.1⟩

theorem places_succ (h : ¬Occurs pattern text first) :
    places pattern text (first + 1) = places pattern text first := by
  ext place
  constructor
  · rintro ⟨hle, hoccurs⟩
    exact ⟨Nat.le_of_succ_le hle, hoccurs⟩
  · rintro ⟨hle, hoccurs⟩
    refine ⟨Nat.lt_of_le_of_ne hle ?_, hoccurs⟩
    rintro rfl
    exact h hoccurs

theorem some_eq_some_iff_isLeast {set : Set Nat} (h : IsLeast set first) :
    some first = some found ↔ IsLeast set found := by
  constructor
  · rintro ⟨⟩
    exact h
  · exact fun hfound => congrArg some (h.unique hfound)

theorem searchFrom_of_starts (h : pattern <+: text) :
    searchFrom pattern first text = some first := by
  cases text with
  | nil => simp [searchFrom, List.prefix_nil.mp h]
  | cons c rest => simp [searchFrom, h]

theorem searchFrom_nil (h : ¬pattern <+: []) : searchFrom pattern first [] = none := by
  simpa [searchFrom] using h

theorem searchFrom_cons {c : Char} {rest : List Char} (h : ¬pattern <+: c :: rest) :
    searchFrom pattern first (c :: rest) = searchFrom pattern (first + 1) rest := by
  simp [searchFrom, h]

/-- The search ends at the first place, and without a place only if there is none. -/
theorem searchFrom_drop_eq_some_iff (hfirst : first ≤ text.length) :
    searchFrom pattern first (text.drop first) = some found ↔
      IsLeast (places pattern text first) found := by
  induction hrest : text.drop first generalizing first with
  | nil =>
      by_cases hprefix : pattern <+: []
      · rw [searchFrom_of_starts hprefix]
        exact some_eq_some_iff_isLeast (isLeast_places ⟨hfirst, hrest ▸ hprefix⟩)
      · -- Behind the end of the text there is no place at all.
        have hlength := List.drop_eq_nil_iff.mp hrest
        rw [searchFrom_nil hprefix]
        refine iff_of_false (by simp) ?_
        rintro ⟨⟨hle, hend, hoccurs⟩, -⟩
        rw [List.drop_eq_nil_of_le (hlength.trans hle)] at hoccurs
        exact hprefix hoccurs
  | cons c rest ih =>
      by_cases hprefix : pattern <+: c :: rest
      · rw [searchFrom_of_starts hprefix]
        exact some_eq_some_iff_isLeast (isLeast_places ⟨hfirst, hrest ▸ hprefix⟩)
      · have hlt : first < text.length := by
          have := congrArg List.length hrest
          simp only [List.length_drop, List.length_cons] at this
          omega
        have htail : text.drop (first + 1) = rest := by
          rw [← List.drop_drop, hrest]
          rfl
        rw [searchFrom_cons hprefix, ih hlt htail, places_succ fun h => hprefix (hrest ▸ h.2)]

/-- A place that is not before the whole part of a start. Without a start, and for a number below
zero or no number, that is every place, and the end of the text is not before any start. -/
def NotSkipped (start : Option Float) (length place : Nat) : Prop :=
  place = length ∨ ∀ x ∈ start, ¬Numeric.ofNat (place + 1) ≤ x

/-- The places of the pattern in the text that are not before the start. -/
def occurrences (pattern text : String) (start : Option Float) : Set Nat :=
  { place | Occurs pattern.toList text.toList place ∧ NotSkipped start text.length place }

section Start

variable {pattern text : String} {start : Option Float} {length place : Nat}

/-- The number of characters that are skipped at a start. -/
theorem notSkipped_iff (hlength : length < 2 * Numeric.hiddenBit) (hplace : place ≤ length) :
    NotSkipped start length place ↔ min ((start.bind position?).getD 0) length ≤ place := by
  cases start with
  | none => simp [NotSkipped]
  | some x =>
      rcases Nat.eq_or_lt_of_le hplace with rfl | hlt
      · simp [NotSkipped]
      · have hnext : place + 1 < 2 * Numeric.hiddenBit := by omega
        simp only [NotSkipped, Option.mem_some_iff, forall_eq', ofNat_le_iff_position? hnext,
          Option.bind_some]
        cases position? x with
        | none => simp
        | some skipped =>
            simp
            omega

theorem occurrences_eq (hlength : text.length < 2 * Numeric.hiddenBit) :
    occurrences pattern text start =
      places pattern.toList text.toList (min ((start.bind position?).getD 0) text.length) := by
  ext place
  constructor
  · rintro ⟨hoccurs, hreached⟩
    have hplace := hoccurs.1.trans_eq String.length_toList
    exact ⟨(notSkipped_iff hlength hplace).mp hreached, hoccurs⟩
  · rintro ⟨hle, hoccurs⟩
    have hplace := hoccurs.1.trans_eq String.length_toList
    exact ⟨hoccurs, (notSkipped_iff hlength hplace).mpr hle⟩

theorem search_eq (hlength : text.length < 2 * Numeric.hiddenBit) :
    ∃ found : Option Nat, search pattern text start.toList = .ofOption (found.map .ofNat) ∧
      ∀ place, found = some place ↔ IsLeast (occurrences pattern text start) place := by
  have hhead : start.toList.head?.bind position? = start.bind position? := by
    cases start <;> rfl
  have hskipped : min ((start.bind position?).getD 0) text.length ≤ text.toList.length :=
    (Nat.min_le_right _ _).trans_eq String.length_toList.symm
  refine ⟨_, rfl, fun place => ?_⟩
  rw [hhead, occurrences_eq hlength, searchFrom_drop_eq_some_iff hskipped]

theorem eq_none_iff_eq_empty {found : Option Nat} {set : Set Nat}
    (h : ∀ place, found = some place ↔ IsLeast set place) : found = none ↔ set = ∅ := by
  constructor
  · rintro rfl
    by_contra hset
    have hleast := isLeast_csInf (Set.nonempty_iff_ne_empty.mpr hset)
    cases (h _).mpr hleast
  · rintro rfl
    refine Option.eq_none_iff_forall_ne_some.mpr fun place hfound => ?_
    exact ((h place).mp hfound).1

/-- The part of the text from a place of the pattern on that is as long as the pattern. -/
theorem substring_of_occurs (hoccurs : Occurs pattern.toList text.toList place)
    (hlength : text.length + 1 < 2 * Numeric.hiddenBit) :
    substring text (Numeric.ofNat (place + 1)) [Numeric.ofNat pattern.length] =
      .ok (.string pattern) := by
  obtain ⟨hplace, rest, hrest⟩ := hoccurs
  rw [String.length_toList] at hplace
  have hstart : Numeric.ofNat (place + 1) - 1.0 = Numeric.ofNat place := by
    rw [← Numeric.ofNat_one, Numeric.ofNat_sub (Nat.le_add_left 1 place) (by omega),
      Nat.add_sub_cancel]
  have hpattern : pattern.length ≤ text.length := by
    have := congrArg List.length hrest
    simp only [List.length_append, List.length_drop, String.length_toList] at this
    omega
  have htaken : (text.toList.drop place).take pattern.length = pattern.toList := by
    rw [← hrest, ← String.length_toList, List.take_left']
    rfl
  have hskipped : place < 2 * Numeric.hiddenBit := by omega
  have hkept : pattern.length < 2 * Numeric.hiddenBit := by omega
  rw [substring, hstart, position?_ofNat hskipped]
  simp only [position?_ofNat hkept, htaken, String.ofList_toList, string]

end Start

end Builtin.Strings

section Calls

open Builtin Builtin.Strings

variable {state : State} {level : Nat} {pattern text : String} {first second third : Form}

theorem Form.gives_strlen (hfirst : first.Gives state level (.string text)) :
    Form.Gives state (level + 1) (.list [.symbol "STRLEN", first]) (.ofNat text.length) := by
  have hjoin : String.join [text] = text := by simp
  refine Form.gives_pure texts[1] rfl rfl rfl rfl (.cons hfirst .nil) ?_
  change Except.ok (Value.ofNat (String.join [text]).length) = _
  rw [hjoin]

theorem Form.gives_increment {place : Nat} (hlt : place + 1 < 2 * Numeric.hiddenBit)
    (hfirst : first.Gives state level (.ofNat place)) :
    Form.Gives state (level + 1) (.list [.symbol "1+", first]) (.ofNat (place + 1)) := by
  refine Form.gives_pure arithmetic[4] rfl rfl rfl rfl (.cons hfirst .nil) ?_
  change Except.ok (Value.number (Numeric.ofNat place + 1.0)) = _
  rw [← Numeric.ofNat_one, Numeric.ofNat_add hlt]
  rfl

theorem Form.gives_substr {start length : Float} {part : Value}
    (hfirst : first.Gives state level (.string text))
    (hsecond : second.Gives state level (.number start))
    (hthird : third.Gives state level (.number length))
    (hpart : substring text start [length] = .ok part) :
    Form.Gives state (level + 1) (.list [.symbol "SUBSTR", first, second, third]) part := by
  refine Form.gives_pure texts[2] rfl rfl rfl rfl
    (.cons hfirst (.cons hsecond (.cons hthird .nil))) ?_
  change halting (substring text start [length]) = _
  rw [hpart]
  rfl

theorem Form.gives_search {start : Option Float} {startForms : List Form}
    (hfirst : first.Gives state level (.string pattern))
    (hsecond : second.Gives state level (.string text))
    (hstart : List.Forall₂ (Form.Gives state level) startForms (start.toList.map .number)) :
    Form.Gives state (level + 1)
      (.list (.symbol "VL-STRING-SEARCH" :: first :: second :: startForms))
      (search pattern text start.toList) := by
  cases start with
  | none =>
      exact Form.gives_pure texts[10] rfl rfl rfl rfl (.cons hfirst (.cons hsecond hstart)) rfl
  | some x =>
      exact Form.gives_pure texts[10] rfl rfl rfl rfl (.cons hfirst (.cons hsecond hstart)) rfl

/-- The search gives the first place of the pattern that is not before the start, or `nil` if there
is none. The part of the text from this place on, counted from one, is the pattern. -/
theorem gives_first_occurrence {start : Option Float} {startForms : List Form}
    (hlength : text.length + 1 < 2 * Numeric.hiddenBit)
    (hfirst : first.Gives state level (.string pattern))
    (hsecond : second.Gives state level (.string text))
    (hstart : List.Forall₂ (Form.Gives state level) startForms (start.toList.map .number)) :
    ∃ found : Option Nat,
      Form.Gives state (level + 1)
        (.list (.symbol "VL-STRING-SEARCH" :: first :: second :: startForms))
        (.ofOption (found.map .ofNat)) ∧
      (∀ place, found = some place ↔ IsLeast (occurrences pattern text start) place) ∧
      (found = none ↔ occurrences pattern text start = ∅) ∧
      ∀ place ∈ found, ∀ placeForm : Form, placeForm.Gives state level (.ofNat place) →
        Form.Gives state (level + 2)
          (.list [.symbol "SUBSTR", second, .list [.symbol "1+", placeForm],
            .list [.symbol "STRLEN", first]])
          (.string pattern) := by
  obtain ⟨found, hsearch, hfound⟩ := search_eq (Nat.lt_of_succ_lt hlength)
  refine ⟨found, hsearch ▸ Form.gives_search hfirst hsecond hstart, hfound,
    eq_none_iff_eq_empty hfound, fun place hplace placeForm hplaceForm => ?_⟩
  have hoccurs := ((hfound place).mp hplace).1.1
  have hlast : place + 1 < 2 * Numeric.hiddenBit := by
    have := hoccurs.1.trans_eq String.length_toList
    omega
  exact Form.gives_substr (hsecond.mono (Nat.le_succ level))
    (Form.gives_increment hlast hplaceForm) (Form.gives_strlen hfirst)
    (substring_of_occurs hoccurs hlength)

/-- A start of one and a half is the place 1, where the pattern stands. -/
theorem gives_first_occurrence_fraction :
    ("abab".length + 1 < 2 * Numeric.hiddenBit ∧
      (Form.string "b").Gives default 1 (.string "b") ∧
      (Form.string "abab").Gives default 1 (.string "abab") ∧
      List.Forall₂ (Form.Gives default 1) [.number 1.5] ((some 1.5).toList.map .number)) ∧
    ∃ found : Option Nat,
      Form.Gives default 2
        (.list [.symbol "VL-STRING-SEARCH", .string "b", .string "abab", .number 1.5])
        (.ofOption (found.map .ofNat)) ∧
      (∀ place, found = some place ↔ IsLeast (occurrences "b" "abab" (some 1.5)) place) ∧
      (found = none ↔ occurrences "b" "abab" (some 1.5) = ∅) ∧
      ∀ place ∈ found, ∀ placeForm : Form, placeForm.Gives default 1 (.ofNat place) →
        Form.Gives default 3
          (.list [.symbol "SUBSTR", .string "abab", .list [.symbol "1+", placeForm],
            .list [.symbol "STRLEN", .string "b"]])
          (.string "b") := by
  have hlength : "abab".length + 1 < 2 * Numeric.hiddenBit := by decide
  have hpattern := Form.gives_string default "b"
  have htext := Form.gives_string default "abab"
  have hstart : List.Forall₂ (Form.Gives default 1) [.number 1.5]
      ((some 1.5).toList.map .number) := .cons (Form.gives_number default 1.5) .nil
  exact ⟨⟨hlength, hpattern, htext, hstart⟩,
    gives_first_occurrence hlength hpattern htext hstart⟩

/-- A fraction of a place is not counted: the place that is found may be before the start. -/
theorem not_least_behind_start :
    ¬∀ (pattern text : String) (start : Float), ∃ found : Option Nat,
      Form.Gives default 2
        (.list [.symbol "VL-STRING-SEARCH", .string pattern, .string text, .number start])
        (.ofOption (found.map .ofNat)) ∧
      ∀ place, found = some place ↔
        IsLeast { place | Occurs pattern.toList text.toList place ∧
          (place = text.length ∨ ¬Numeric.ofNat place < start) } place := by
  intro h
  obtain ⟨found, hgives, hfound⟩ := h "b" "abab" 1.5
  have hstart : List.Forall₂ (Form.Gives default 1) [.number 1.5]
      ((some 1.5).toList.map .number) := .cons (Form.gives_number default 1.5) .nil
  have hsearch : Form.Gives default 2
      (.list [.symbol "VL-STRING-SEARCH", .string "b", .string "abab", .number 1.5]) (.ofNat 1) :=
    Form.gives_search (Form.gives_string default "b") (Form.gives_string default "abab") hstart
  have hvalue := hgives.unique hsearch
  cases found with
  | none => cases hvalue
  | some place =>
      obtain ⟨⟨hplace, -⟩, hreached⟩ := ((hfound place).mp rfl).1
      have hsmall : place < 2 * Numeric.hiddenBit :=
        hplace.trans_lt (show "abab".toList.length < _ by decide)
      -- The number that is given counts to one place only.
      have hposition : position? (Numeric.ofNat place) = position? (Numeric.ofNat 1) :=
        congrArg position? (Value.number.inj hvalue)
      rw [position?_ofNat hsmall, position?_ofNat (by decide)] at hposition
      obtain rfl := Option.some.inj hposition
      exact absurd hreached (by decide +kernel)

end Calls

end DraftLisp

import Mathlib.Data.List.TakeWhile
import DraftLisp.Proofs.Evaluation.Given
import DraftLisp.Proofs.Numeric.Digits
import DraftLisp.Proofs.Numeric.Integers
import DraftLisp.Proofs.Token.Lexemes

namespace DraftLisp

namespace Builtin.Strings

open Numeric

def Fits (n : Int) : Prop := leastInteger ≤ n ∧ n ≤ greatestInteger

instance (n : Int) : Decidable (Fits n) := inferInstanceAs (Decidable (_ ∧ _))

def signed (negative : Bool) (magnitude : Nat) : Int :=
  if negative then -(magnitude : Int) else magnitude

/-- What may stand in front of the digits of an integer. -/
inductive Sign : Bool → List Char → Prop
  | none : Sign false []
  | plus : Sign false ['+']
  | minus : Sign true ['-']

/-- The text starts with blanks, perhaps a sign, and the digits of the integer. -/
inductive Leads : List Char → Int → Prop
  | intro {blanks sign digits rest : List Char} {negative : Bool}
      (hblanks : ∀ c ∈ blanks, Text.isBlank c = true) (hsign : Sign negative sign)
      (hdigits : ∀ c ∈ digits, c.isDigit = true) (hne : digits ≠ [])
      (hrest : ∀ c ∈ rest.head?, c.isDigit = false) :
      Leads (blanks ++ (sign ++ (digits ++ rest))) (signed negative (digitsValue digits))

/-- The value of the digits behind the sign; it is not cut off. -/
theorem leadingInteger_eq (chars : List Char) :
    leadingInteger chars =
      let signless := splitSign (Text.dropBlanks chars)
      let digits := signless.2.takeWhile Char.isDigit
      let value := signed signless.1 (digitsValue digits)
      if digits ≠ [] ∧ Fits value then value else 0 := by
  unfold leadingInteger
  simp only [digitsValueUpTo_eq_min, Fits, signed, leastInteger, greatestInteger]
  generalize (splitSign (Text.dropBlanks chars)).1 = negative
  generalize (splitSign (Text.dropBlanks chars)).2.takeWhile Char.isDigit = digits
  by_cases hdigits : digits = []
  · simp [hdigits]
  · -- Where the value is cut off, both are too great for 64 bits.
    simp only [ne_eq, hdigits, not_false_eq_true, true_and]
    cases negative
    · simp only [Bool.false_eq_true, if_false]
      split <;> split <;> omega
    · simp only [if_true]
      split <;> split <;> omega

theorem Sign.splitSign_append {negative : Bool} {sign : List Char} (h : Sign negative sign)
    {digits : List Char} (hdigits : ∀ c ∈ digits.head?, c.isDigit = true) :
    splitSign (sign ++ digits) = (negative, digits) := by
  cases h with
  | none => exact splitSign_signChars false hdigits
  | plus => rfl
  | minus => rfl

theorem exists_sign (chars : List Char) :
    ∃ negative sign unsigned, Sign negative sign ∧ splitSign chars = (negative, unsigned) ∧
      chars = sign ++ unsigned ∧ (sign = [] → ∀ c ∈ unsigned.head?, c ≠ '-' ∧ c ≠ '+') := by
  unfold splitSign
  split
  · exact ⟨true, ['-'], _, .minus, rfl, rfl, nofun⟩
  · exact ⟨false, ['+'], _, .plus, rfl, rfl, nofun⟩
  · rename_i hminus hplus
    refine ⟨false, [], chars, .none, rfl, rfl, fun _ c hc => ?_⟩
    obtain ⟨rest, rfl⟩ := List.head?_eq_some_iff.mp hc
    exact ⟨fun h => hminus rest (h ▸ rfl), fun h => hplus rest (h ▸ rfl)⟩

theorem isBlank_of_isDigit {c : Char} (h : c.isDigit = true) : Text.isBlank c = false := by
  simp only [Char.isDigit, Bool.and_eq_true, decide_eq_true_eq, ge_iff_le,
    UInt32.le_iff_toNat_le] at h
  have hrange : 48 ≤ c.toNat ∧ c.toNat ≤ 57 := h
  have houtside : ∀ range ∈ Text.blankRanges, range.last < 48 ∨ 57 < range.first := by decide
  rw [Bool.eq_false_iff]
  intro hblank
  obtain ⟨range, hmem, hlow, hhigh⟩ := (Text.inRanges_iff _ c).mp hblank
  have hrange' := houtside range hmem
  omega

theorem Sign.head_not_blank {negative : Bool} {sign digits : List Char} (h : Sign negative sign)
    (hdigits : ∀ c ∈ digits.head?, c.isDigit = true) :
    ∀ c ∈ (sign ++ digits).head?, Text.isBlank c = false := by
  cases h with
  | none => exact fun c hc => isBlank_of_isDigit (hdigits c hc)
  | plus =>
      rintro _ ⟨⟩
      decide
  | minus =>
      rintro _ ⟨⟩
      decide

theorem dropBlanks_append {blanks rest : List Char}
    (hblanks : ∀ c ∈ blanks, Text.isBlank c = true)
    (hrest : ∀ c ∈ rest.head?, Text.isBlank c = false) :
    Text.dropBlanks (blanks ++ rest) = rest := by
  unfold Text.dropBlanks
  rw [List.dropWhile_append_of_pos hblanks]
  cases rest with
  | nil => rfl
  | cons c rest => exact List.dropWhile_cons_of_neg (by simp [hrest c rfl])

/-- The parts of the text that the operator tells apart. -/
theorem Leads.leadingInteger_eq {chars : List Char} {n : Int} (h : Leads chars n) :
    leadingInteger chars = if Fits n then n else 0 := by
  cases h with
  | @intro blanks sign digits rest negative hblanks hsign hdigits hne hrest =>
      have hhead := head?_append_isDigit hdigits hne rest
      have hspan := span_digits hdigits hrest
      rw [List.span_eq_takeWhile_dropWhile] at hspan
      rw [Strings.leadingInteger_eq, dropBlanks_append hblanks (hsign.head_not_blank hhead),
        hsign.splitSign_append hhead]
      simp only [(Prod.mk.inj hspan).1, hne, ne_eq, not_false_eq_true, true_and]

/-- The first characters that are not blank are a digit, or a sign and a digit. -/
def StartsInteger (chars : List Char) : Prop :=
  ∃ negative sign digit rest, Sign negative sign ∧ digit.isDigit = true ∧
    Text.dropBlanks chars = sign ++ digit :: rest

theorem Leads.startsInteger {chars : List Char} {n : Int} (h : Leads chars n) :
    StartsInteger chars := by
  cases h with
  | @intro blanks sign digits rest negative hblanks hsign hdigits hne hrest =>
      have hhead := head?_append_isDigit hdigits hne rest
      obtain ⟨digit, digits, rfl⟩ := List.exists_cons_of_ne_nil hne
      exact ⟨negative, sign, digit, digits ++ rest, hsign, hdigits digit (by simp),
        dropBlanks_append hblanks (hsign.head_not_blank hhead)⟩

theorem leads_of_digits {chars : List Char}
    (h : (splitSign (Text.dropBlanks chars)).2.takeWhile Char.isDigit ≠ []) :
    ∃ n, Leads chars n := by
  obtain ⟨negative, sign, unsigned, hsign, hsplit, hdropped, -⟩ :=
    exists_sign (Text.dropBlanks chars)
  rw [hsplit] at h
  have hchars : chars = chars.takeWhile Text.isBlank ++
      (sign ++ (unsigned.takeWhile Char.isDigit ++ unsigned.dropWhile Char.isDigit)) := by
    rw [List.takeWhile_append_dropWhile, ← hdropped]
    exact List.takeWhile_append_dropWhile.symm
  rw [hchars]
  refine ⟨_, .intro (fun c hc => List.mem_takeWhile_imp hc) hsign
    (fun c hc => List.mem_takeWhile_imp hc) h fun c hc => ?_⟩
  have hstop := List.head?_dropWhile_not Char.isDigit unsigned
  rw [Option.mem_def.mp hc] at hstop
  exact hstop

theorem leadingInteger_of_not_startsInteger {chars : List Char} (h : ¬StartsInteger chars) :
    leadingInteger chars = 0 := by
  rw [leadingInteger_eq]
  refine if_neg fun hfits => ?_
  obtain ⟨n, hn⟩ := leads_of_digits hfits.1
  exact h hn.startsInteger

theorem fits_leadingInteger (chars : List Char) : Fits (leadingInteger chars) := by
  rw [leadingInteger_eq]
  dsimp only
  split
  · rename_i h
    exact h.2
  · decide

theorem leads_intChars {blanks rest : List Char} (n : Int)
    (hblanks : ∀ c ∈ blanks, Text.isBlank c = true)
    (hrest : ∀ c ∈ rest.head?, c.isDigit = false) : Leads (blanks ++ (intChars n ++ rest)) n := by
  have hsign : Sign (decide (n < 0)) (signChars (decide (n < 0))) := by
    cases decide (n < 0)
    · exact .none
    · exact .minus
  have hvalue : signed (decide (n < 0)) (digitsValue (digitChars n.natAbs)) = n := by
    rw [digitsValue_digitChars, signed]
    by_cases hnegative : n < 0
    · rw [decide_eq_true hnegative, if_pos rfl]
      omega
    · rw [decide_eq_false hnegative, if_neg Bool.false_ne_true]
      omega
  have hne : digitChars n.natAbs ≠ [] := List.ne_nil_of_length_pos (digitCount_pos n.natAbs)
  have hleads := Leads.intro hblanks hsign (fun c => isDigit_of_mem_digitChars) hne hrest
  rw [hvalue] at hleads
  rw [intChars, List.append_assoc]
  exact hleads

section Scan

/-- The characters of a text and how many bytes stand before each of them. -/
def charIndices (offset : Nat) : List Char → List (Nat × Char)
  | [] => []
  | c :: rest => (offset, c) :: charIndices (offset + c.utf8Size) rest

/-- A digit, or a sign at the start of the text. -/
def inInteger (indexed : Nat × Char) : Bool :=
  indexed.2.isDigit || (indexed.1 == 0 && (indexed.2 == '+' || indexed.2 == '-'))

/-- How many bytes the integer takes that a text starts with, found byte by byte. -/
def integerEnd (chars : List Char) : Nat :=
  (((charIndices 0 chars).takeWhile inInteger).map fun indexed =>
    indexed.1 + indexed.2.utf8Size).getLast?.getD 0

/-- A whole text as a 64-bit integer. -/
def integer64? (chars : List Char) : Option Int :=
  let signless := splitSign chars
  let value := signed signless.1 (digitsValue signless.2)
  if signless.2 ≠ [] ∧ signless.2.all Char.isDigit ∧ Fits value then some value else none

open Excerpt (byteLength)

theorem getLast?_charIndices (offset : Nat) (chars : List Char) :
    ((charIndices offset chars).map fun indexed =>
      indexed.1 + indexed.2.utf8Size).getLast?.getD offset = offset + byteLength chars := by
  induction chars generalizing offset with
  | nil => rfl
  | cons c rest ih =>
      rw [charIndices, List.map_cons, List.getLast?_cons, Option.getD_some, ih, byteLength]
      omega

/-- Behind the first character only digits count. -/
theorem takeWhile_charIndices {offset : Nat} (hoffset : 0 < offset) (chars : List Char) :
    (charIndices offset chars).takeWhile inInteger =
      charIndices offset (chars.takeWhile Char.isDigit) := by
  induction chars generalizing offset with
  | nil => rfl
  | cons c rest ih =>
      have hhead : inInteger (offset, c) = c.isDigit := by
        simp [inInteger, hoffset.ne']
      rw [charIndices, List.takeWhile_cons, List.takeWhile_cons, hhead]
      split
      · rw [ih (Nat.add_pos_left hoffset _)]
        rfl
      · rfl

theorem takeWhile_charIndices_zero {negative : Bool} {sign rest : List Char}
    (hsign : Sign negative sign) (hhead : sign = [] → ∀ c ∈ rest.head?, c ≠ '-' ∧ c ≠ '+') :
    (charIndices 0 (sign ++ rest)).takeWhile inInteger =
      charIndices 0 (sign ++ rest.takeWhile Char.isDigit) := by
  -- No character is empty, so that the second one does not stand at the start.
  have hbehind (c : Char) (rest : List Char) :
      (charIndices (0 + c.utf8Size) rest).takeWhile inInteger =
        charIndices (0 + c.utf8Size) (rest.takeWhile Char.isDigit) :=
    takeWhile_charIndices (Nat.add_pos_right 0 c.utf8Size_pos) rest
  cases hsign with
  | minus =>
      rw [List.singleton_append, charIndices, List.takeWhile_cons_of_pos rfl, hbehind]
      rfl
  | plus =>
      rw [List.singleton_append, charIndices, List.takeWhile_cons_of_pos rfl, hbehind]
      rfl
  | none =>
      cases rest with
      | nil => rfl
      | cons c rest =>
          have hunsigned : inInteger (0, c) = c.isDigit := by
            simp [inInteger, hhead rfl c rfl]
          rw [List.nil_append, charIndices, List.takeWhile_cons, hunsigned, List.nil_append,
            List.takeWhile_cons, hbehind]
          split <;> rfl

theorem integerEnd_append {negative : Bool} {sign rest : List Char} (hsign : Sign negative sign)
    (hhead : sign = [] → ∀ c ∈ rest.head?, c ≠ '-' ∧ c ≠ '+') :
    integerEnd (sign ++ rest) =
      (String.ofList (sign ++ rest.takeWhile Char.isDigit)).utf8ByteSize := by
  rw [integerEnd, takeWhile_charIndices_zero hsign hhead, getLast?_charIndices, Nat.zero_add,
    Excerpt.utf8ByteSize_ofList]

/-- The scan ends behind a character, and what it has passed is read as the integer. -/
theorem integerEnd_spec (chars : List Char) :
    ∃ front behind, Text.dropBlanks chars = front ++ behind ∧
      integerEnd (Text.dropBlanks chars) = (String.ofList front).utf8ByteSize ∧
      leadingInteger chars = (integer64? front).getD 0 := by
  obtain ⟨negative, sign, unsigned, hsign, hsplit, hdropped, hhead⟩ :=
    exists_sign (Text.dropBlanks chars)
  have hall : ∀ c ∈ unsigned.takeWhile Char.isDigit, c.isDigit = true :=
    fun c hc => List.mem_takeWhile_imp hc
  refine ⟨sign ++ unsigned.takeWhile Char.isDigit, unsigned.dropWhile Char.isDigit, ?_, ?_, ?_⟩
  · rw [List.append_assoc, List.takeWhile_append_dropWhile, hdropped]
  · rw [hdropped, integerEnd_append hsign hhead]
  · have hfront := hsign.splitSign_append fun c hc => hall c (List.mem_of_mem_head? hc)
    have hdigits := List.all_eq_true.mpr hall
    rw [leadingInteger_eq, integer64?, hfront, hsplit]
    simp only [hdigits, true_and]
    split <;> rfl

end Scan

end Builtin.Strings

section Calls

open Builtin Builtin.Strings Numeric

variable {state : State} {level : Nat}

theorem strings_map (parts : List String) : strings (parts.map .string) = .ok parts := by
  unfold strings
  induction parts with
  | nil => rfl
  | cons part rest ih =>
      rw [List.map_cons, List.mapM_cons, ih]
      rfl

theorem Form.gives_strcat {forms : List Form} {parts : List String}
    (h : List.Forall₂ (Form.Gives state level) forms (parts.map .string)) :
    Form.Gives state (level + 1) (.list (.symbol "STRCAT" :: forms))
      (.string (String.join parts)) := by
  refine Form.gives_pure texts[0] rfl rfl rfl rfl h ?_
  rw [variadic, strings_map]
  rfl

theorem Form.gives_atoi {form : Form} {text : String} (h : form.Gives state level (.string text)) :
    Form.Gives state (level + 1) (.list [.symbol "ATOI", form])
      (.number (ofInt (leadingInteger text.toList))) :=
  Form.gives_pure texts[4] rfl rfl rfl rfl (.cons h .nil) rfl

theorem Form.gives_itoa {form : Form} {x : Float} (h : form.Gives state level (.number x)) :
    Form.Gives state (level + 1) (.list [.symbol "ITOA", form])
      (.string (intText (toInt64 x))) :=
  Form.gives_pure texts[6] rfl rfl rfl rfl (.cons h .nil) rfl

/-- How integers are written, and what is read from texts. -/
structure ReadsIntegers (state : State) : Prop where
  /-- The written form of an integer. -/
  written : ∀ x n, IsInteger x n → Fits n →
    Form.Gives state 2 (.list [.symbol "ITOA", .number x]) (.string (intText n))
  /-- The integer is read back, whatever blanks stand before it and whatever but a digit stands
  behind it. -/
  back : ∀ n (before after : String), Fits n → (∀ c ∈ before.toList, Text.isBlank c = true) →
    (∀ c ∈ after.toList.head?, c.isDigit = false) →
    Form.Gives state 3
      (.list [.symbol "ATOI",
        .list [.symbol "STRCAT", .string before, .string (intText n), .string after]])
      (.number (ofInt n))
  /-- The number that is given is the integer itself if any float is. -/
  exact : ∀ n : Int, Representable n.natAbs → IsInteger (ofInt n) n
  leads : ∀ (text : String) n, Leads text.toList n →
    Form.Gives state 2 (.list [.symbol "ATOI", .string text])
      (.number (if Fits n then ofInt n else 0.0))
  none : ∀ text : String, ¬StartsInteger text.toList →
    Form.Gives state 2 (.list [.symbol "ATOI", .string text]) (.number 0.0)
  /-- No text fails to be read, and the cut behind the integer is at the end of a character. -/
  total : ∀ text : String, ∃ n front behind, Fits n ∧
    Form.Gives state 2 (.list [.symbol "ATOI", .string text]) (.number (ofInt n)) ∧
    Text.dropBlanks text.toList = front ++ behind ∧
    integerEnd (Text.dropBlanks text.toList) = (String.ofList front).utf8ByteSize ∧
    n = (integer64? front).getD 0

theorem readsIntegers (state : State) : ReadsIntegers state where
  written x n hx hn := by
    have hint : toInt64 x = n := by
      exact (hx.clampInto _ _).trans ((congrArg _ (min_eq_right hn.2)).trans (max_eq_right hn.1))
    have hgives := Form.gives_itoa (Form.gives_number state x)
    rwa [hint] at hgives
  back n before after hn hbefore hafter := by
    have hoperands : List.Forall₂ (Form.Gives state 1)
        [.string before, .string (intText n), .string after]
        ([before, intText n, after].map .string) :=
      .cons (Form.gives_string state _) (.cons (Form.gives_string state _)
        (.cons (Form.gives_string state _) .nil))
    have hchars : (String.join [before, intText n, after]).toList =
        before.toList ++ (intChars n ++ after.toList) := by
      simp [intText]
    have hgives := Form.gives_atoi (Form.gives_strcat hoperands)
    rwa [hchars, (leads_intChars n hbefore hafter).leadingInteger_eq, if_pos hn] at hgives
  exact n := isInteger_ofInt
  leads text n h := by
    have hgives := Form.gives_atoi (Form.gives_string state text)
    rwa [h.leadingInteger_eq, apply_ite ofInt] at hgives
  none text h := by
    have hgives := Form.gives_atoi (Form.gives_string state text)
    rwa [leadingInteger_of_not_startsInteger h] at hgives
  total text := by
    obtain ⟨front, behind, hsplit, hend, hread⟩ := integerEnd_spec text.toList
    exact ⟨_, front, behind, fits_leadingInteger text.toList,
      Form.gives_atoi (Form.gives_string state text), hsplit, hend, hread⟩

end Calls

end DraftLisp

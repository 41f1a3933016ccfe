import DraftLisp.Proofs.Token.Spelled

namespace DraftLisp

namespace Text.Quoted

/-- What a backslash and the character behind it mean. -/
inductive Escape : Char → List Char → Prop
  | lineFeed : Escape 'n' ['\n']
  | tab : Escape 't' ['\t']
  | backslash : Escape '\\' ['\\']
  | mark : Escape '"' ['"']
  | kept {c : Char} : c ∉ ['n', 't', '\\', '"'] → Escape c ['\\', c]

/-- What stands between the marks of a string literal, and the text of the literal. -/
inductive Body : List Char → List Char → Prop
  | empty : Body [] []
  | plain {c : Char} {body text : List Char} :
      c ≠ '"' → c ≠ '\\' → Body body text → Body (c :: body) (c :: text)
  | pair {c : Char} {meaning body text : List Char} :
      Escape c meaning → Body body text → Body ('\\' :: c :: body) (meaning ++ text)

theorem escape_decodePair (c : Char) : Escape c (decodePair c) := by
  unfold decodePair
  split
  · subst c
    exact .lineFeed
  split
  · subst c
    exact .tab
  split
  · subst c
    exact .backslash
  split
  · subst c
    exact .mark
  · exact .kept (by simp [*])

theorem Escape.eq_decodePair {c : Char} {meaning : List Char} (h : Escape c meaning) :
    meaning = decodePair c := by
  cases h with
  | kept hc =>
      simp only [List.mem_cons, List.not_mem_nil, or_false, not_or] at hc
      simp [decodePair, hc]
  | _ => rfl

theorem Body.scan_append {body text : List Char} (h : Body body text) (after : List Char) :
    scan (body ++ '"' :: after) = some (text, after) := by
  induction h with
  | empty => exact scan_quotationMark after
  | plain hmark hslash _ ih =>
      rw [List.cons_append, scan_plain hmark hslash, ih]
      rfl
  | pair hescape _ ih =>
      rw [hescape.eq_decodePair, List.cons_append, List.cons_append, scan.eq_def]
      simp [ih]

theorem body_of_scan {chars text after : List Char} (h : scan chars = some (text, after)) :
    ∃ body, Body body text ∧ chars = body ++ '"' :: after := by
  fun_induction scan chars generalizing text with
  | case1 => cases h
  | case2 rest =>
      cases h
      exact ⟨[], .empty, rfl⟩
  | case3 => cases h
  | case4 c rest _ ih =>
      obtain ⟨⟨inner, _⟩, hscan, heq⟩ := Option.map_eq_some_iff.mp h
      cases heq
      obtain ⟨body, hbody, rfl⟩ := ih hscan
      exact ⟨'\\' :: c :: body, .pair (escape_decodePair c) hbody, rfl⟩
  | case5 c rest hmark hslash ih =>
      obtain ⟨⟨inner, _⟩, hscan, heq⟩ := Option.map_eq_some_iff.mp h
      cases heq
      obtain ⟨body, hbody, rfl⟩ := ih hscan
      exact ⟨c :: body, .plain hmark hslash hbody, rfl⟩

end Text.Quoted

namespace Excerpt

theorem utf8ByteSize_ofList (chars : List Char) :
    (String.ofList chars).utf8ByteSize = byteLength chars := by
  induction chars with
  | nil => rfl
  | cons c chars ih =>
      rw [String.ofList_cons, String.utf8ByteSize_append, String.utf8ByteSize_singleton, byteLength,
        ih]

theorem byteLength_toList (text : String) : byteLength text.toList = text.utf8ByteSize := by
  rw [← utf8ByteSize_ofList, String.ofList_toList]

end Excerpt

namespace Token

/-- The end of the text or a line feed comes next. -/
def EndsLine : List Char → Prop
  | [] => True
  | c :: _ => c = '\n'

/-- The lexeme of a token in front of the rest of a text. -/
inductive Lexeme : List Char → Token → List Char → Prop
  | opening {after : List Char} : Lexeme ['('] .opening after
  | closing {after : List Char} : Lexeme [')'] .closing after
  | quote {after : List Char} : Lexeme ['\''] .quote after
  | string {body text after : List Char} : Text.Quoted.Body body text →
      Lexeme ('"' :: (body ++ ['"'])) (.string (String.ofList text)) after
  | number {chars after : List Char} {value : Float} : Atomic chars → Stops after →
      Numeric.readFinite? chars = some value → Lexeme chars (.number value) after
  | symbol {chars after : List Char} : Atomic chars → Stops after →
      Numeric.readFinite? chars = none →
      Lexeme chars (.symbol (Text.upper (String.ofList chars))) after

/-- Up to the rest, a text consists of gaps, comments and the lexemes of the tokens. -/
inductive Lexes (rest : List Char) : List Char → List Token → Prop
  | done : Lexes rest rest []
  | gap {c : Char} {chars : List Char} {tokens : List Token} :
      isGap c = true → Lexes rest chars tokens → Lexes rest (c :: chars) tokens
  | comment {body chars : List Char} {tokens : List Token} :
      '\n' ∉ body → EndsLine chars → Lexes rest chars tokens →
      Lexes rest (';' :: (body ++ chars)) tokens
  | lexeme {chars after : List Char} {token : Token} {tokens : List Token} :
      Lexeme chars token after → Lexes rest after tokens →
      Lexes rest (chars ++ after) (token :: tokens)

/-- A string literal starts here, and no mark closes it. -/
def Unclosed (chars : List Char) : Prop :=
  ∃ rest, chars = '"' :: rest ∧
    ∀ body text after, Text.Quoted.Body body text → rest ≠ body ++ '"' :: after

/-- A blank that is no gap comes next. -/
def Stray (chars : List Char) : Prop :=
  ∃ c rest, chars = c :: rest ∧ Text.isBlank c = true ∧ isGap c = false

inductive Refused : LexFault → List Char → Prop
  | unclosed {chars : List Char} : Unclosed chars → Refused .unterminatedString chars
  | stray {chars : List Char} : Stray chars → Refused .unexpectedInput chars

theorem skipGaps_gap {c : Char} (h : isGap c = true) (chars : List Char) :
    skipGaps false (c :: chars) = skipGaps false chars := by
  simp [skipGaps, h]

theorem skipGaps_comment {body chars : List Char} (hbody : '\n' ∉ body) (hend : EndsLine chars) :
    skipGaps true (body ++ chars) = skipGaps false chars := by
  induction body with
  | nil =>
      cases chars with
      | nil => rfl
      | cons c chars =>
          obtain rfl : c = '\n' := hend
          rfl
  | cons c body ih =>
      simp only [List.mem_cons, not_or] at hbody
      have hc : (c != '\n') = true := by simpa using Ne.symm hbody.1
      rw [List.cons_append, skipGaps, if_pos rfl, hc]
      exact ih hbody.2

theorem Lexeme.scan_append {chars after : List Char} {token : Token}
    (h : Lexeme chars token after) :
    scan (chars ++ after) = (scan after).map (token :: ·) := by
  cases h with
  | opening => exact scan_opening after
  | closing => exact scan_closing after
  | quote => exact scan_of_scanOne rfl rfl
  | string hbody =>
      rw [List.cons_append, List.append_assoc]
      refine scan_of_scanOne rfl ?_
      have hscan := hbody.scan_append after
      simp [scanOne, hscan]
  | number hatomic hstops hread =>
      rw [scan_atom hatomic hstops, ofAtom_of_readFinite? hread]
  | symbol hatomic hstops hread =>
      rw [scan_atom hatomic hstops, ofAtom_of_not_finite hread]
      simp [Text.upper]

/-- The tokens in front of the rest come first. -/
theorem Lexes.scan_eq {rest chars : List Char} {tokens : List Token}
    (h : Lexes rest chars tokens) : scan chars = (scan rest).map (tokens ++ ·) := by
  induction h with
  | done => cases scan rest <;> rfl
  | gap hgap _ ih => rw [scan_congr (skipGaps_gap hgap _), ih]
  | comment hbody hend _ ih =>
      have hskip := skipGaps_comment hbody hend
      rw [← ih]
      exact scan_congr hskip
  | lexeme hlexeme _ ih =>
      rw [hlexeme.scan_append, ih]
      cases scan rest <;> rfl

theorem scan_of_refused {chars rest : List Char} {c : Char} {fault : LexFault}
    (hskip : skipGaps false chars = c :: rest) (hone : scanOne c rest = .error fault) :
    scan chars = .error (fault, c :: rest) := by
  rw [scan.eq_def]
  split
  · simp_all
  · rename_i hgaps
    rw [hskip] at hgaps
    cases hgaps
    split <;> simp_all

theorem ne_of_isBlank {c mark : Char} (hc : Text.isBlank c = true)
    (hmark : Text.isBlank mark = false) : c ≠ mark := by
  rintro rfl
  rw [hc] at hmark
  cases hmark

theorem Refused.scan_eq {fault : LexFault} {rest : List Char} (h : Refused fault rest) :
    scan rest = .error (fault, rest) := by
  cases h with
  | unclosed h =>
      obtain ⟨rest, rfl, hopen⟩ := h
      have hscan : Text.Quoted.scan rest = none := by
        rw [Option.eq_none_iff_forall_ne_some]
        rintro ⟨text, after⟩ hsome
        obtain ⟨body, hbody, heq⟩ := Text.Quoted.body_of_scan hsome
        exact hopen body text after hbody heq
      exact scan_of_refused rfl (by simp [scanOne, hscan])
  | stray h =>
      obtain ⟨c, rest, rfl, hblank, hgap⟩ := h
      have hopening : c ≠ '(' := ne_of_isBlank hblank (by decide)
      have hclosing : c ≠ ')' := ne_of_isBlank hblank (by decide)
      have hquote : c ≠ '\'' := ne_of_isBlank hblank (by decide)
      have hstring : c ≠ '"' := ne_of_isBlank hblank (by decide)
      have hcomment : c ≠ ';' := ne_of_isBlank hblank (by decide)
      refine scan_of_refused (by simp [skipGaps, hgap, hcomment]) ?_
      simp [scanOne, isDelimiter, hblank, hopening, hclosing, hquote, hstring]

theorem endsLine_dropWhile (chars : List Char) :
    EndsLine (chars.dropWhile (· != '\n')) := by
  cases hrest : chars.dropWhile (· != '\n') with
  | nil => trivial
  | cons c rest =>
      have hhead := List.head?_dropWhile_not (· != '\n') chars
      rw [hrest] at hhead
      simpa [EndsLine] using hhead

/-- What is skipped are gaps and comments. A comment that has begun goes up to its line feed. -/
theorem lexes_of_skipGaps {rest : List Char} {tokens : List Token} (chars : List Char) :
    (Lexes rest (skipGaps false chars) tokens → Lexes rest chars tokens) ∧
      (Lexes rest (skipGaps true chars) tokens →
        Lexes rest (chars.dropWhile (· != '\n')) tokens) := by
  induction chars with
  | nil => exact ⟨id, id⟩
  | cons c chars ih =>
      obtain ⟨hoff, hon⟩ := ih
      constructor
      · intro h
        rw [skipGaps, if_neg Bool.false_ne_true] at h
        split at h
        · exact .gap ‹_› (hoff h)
        · split at h
          · subst c
            have hbody : '\n' ∉ chars.takeWhile (· != '\n') := by
              intro hmem
              have hfeed := List.all_eq_true.mp List.all_takeWhile _ hmem
              simp at hfeed
            have hcomment := Lexes.comment hbody (endsLine_dropWhile chars) (hon h)
            rwa [List.takeWhile_append_dropWhile] at hcomment
          · exact h
      · intro h
        rw [skipGaps, if_pos rfl] at h
        by_cases hfeed : c = '\n'
        · subst c
          exact .gap rfl (hoff h)
        · have hc : (c != '\n') = true := by simpa using hfeed
          rw [hc] at h
          rw [List.dropWhile_cons_of_pos (p := (· != '\n')) hc]
          exact hon h

/-- What comes next is neither a gap nor the mark of a comment. -/
theorem not_skipped_of_skipGaps {inComment : Bool} {chars rest : List Char} {c : Char}
    (h : skipGaps inComment chars = c :: rest) : isGap c = false ∧ c ≠ ';' := by
  induction chars generalizing inComment with
  | nil => cases h
  | cons d chars ih =>
      unfold skipGaps at h
      split at h
      · exact ih h
      split at h
      · exact ih h
      split at h
      · exact ih h
      · cases h
        simp_all

theorem stops_dropWhile (chars : List Char) : Stops (chars.dropWhile (!isDelimiter ·)) := by
  cases hrest : chars.dropWhile (!isDelimiter ·) with
  | nil => trivial
  | cons c rest =>
      have hhead := List.head?_dropWhile_not (!isDelimiter ·) chars
      rw [hrest] at hhead
      simpa [Stops] using hhead

theorem lexeme_of_atomic {chars after : List Char} (hatomic : Atomic chars) (hstops : Stops after) :
    Lexeme chars (ofAtom chars) after := by
  cases hread : Numeric.readFinite? chars with
  | some value =>
      rw [ofAtom_of_readFinite? hread]
      exact .number hatomic hstops hread
  | none =>
      unfold ofAtom
      rw [hread]
      exact .symbol hatomic hstops hread

theorem lexeme_of_scanOne {c : Char} {rest after : List Char} {token : Token}
    (h : scanOne c rest = .ok (token, after)) :
    ∃ chars, c :: rest = chars ++ after ∧ Lexeme chars token after := by
  unfold scanOne at h
  split at h
  · subst c
    cases h
    exact ⟨_, rfl, .opening⟩
  split at h
  · subst c
    cases h
    exact ⟨_, rfl, .closing⟩
  split at h
  · subst c
    cases h
    exact ⟨_, rfl, .quote⟩
  split at h
  · subst c
    split at h
    · rename_i text after' hscan
      cases h
      obtain ⟨body, hbody, rfl⟩ := Text.Quoted.body_of_scan hscan
      exact ⟨'"' :: (body ++ ['"']), by simp, .string hbody⟩
    · cases h
  split at h
  · cases h
  · rename_i hdelimiter
    cases h
    have hatomic := atomic_takeWhile (by simpa using hdelimiter) rest
    refine ⟨_, ?_, lexeme_of_atomic hatomic (stops_dropWhile rest)⟩
    rw [List.cons_append, List.takeWhile_append_dropWhile]

theorem refused_of_scanOne {c : Char} {rest : List Char} {fault : LexFault}
    (h : scanOne c rest = .error fault) (hgap : isGap c = false) (hcomment : c ≠ ';') :
    Refused fault (c :: rest) := by
  unfold scanOne at h
  split at h
  · cases h
  split at h
  · cases h
  split at h
  · cases h
  split at h
  · subst c
    split at h
    · cases h
    · rename_i hscan
      cases h
      refine .unclosed ⟨rest, rfl, ?_⟩
      rintro body text after hbody rfl
      rw [hbody.scan_append] at hscan
      cases hscan
  split at h
  · cases h
    refine .stray ⟨c, rest, rfl, ?_, hgap⟩
    simp_all [isDelimiter]
  · cases h

/-- Every text can be split up to its end or to a place where it is refused. -/
theorem exists_lexes (chars : List Char) :
    ∃ tokens rest, Lexes rest chars tokens ∧ (rest = [] ∨ ∃ fault, Refused fault rest) := by
  induction hlength : chars.length using Nat.strongRecOn generalizing chars with
  | ind length ih =>
      have hskipped := length_skipGaps_le false chars
      cases hgaps : skipGaps false chars with
      | nil => exact ⟨[], [], (lexes_of_skipGaps chars).1 (hgaps ▸ .done), .inl rfl⟩
      | cons c rest =>
          cases hone : scanOne c rest with
          | error fault =>
              obtain ⟨hgap, hcomment⟩ := not_skipped_of_skipGaps hgaps
              have hrefused := refused_of_scanOne hone hgap hcomment
              exact ⟨[], c :: rest, (lexes_of_skipGaps chars).1 (hgaps ▸ .done),
                .inr ⟨fault, hrefused⟩⟩
          | ok delivered =>
              obtain ⟨token, after⟩ := delivered
              obtain ⟨lexeme, hchars, hlexeme⟩ := lexeme_of_scanOne hone
              have hafter := length_le_of_scanOne hone
              rw [hgaps, List.length_cons] at hskipped
              obtain ⟨tokens, last, hlexes, hlast⟩ := ih after.length (by omega) after rfl
              refine ⟨token :: tokens, last, (lexes_of_skipGaps chars).1 ?_, hlast⟩
              rw [hgaps, hchars]
              exact .lexeme hlexeme hlexes

theorem scan_eq_ok_iff {chars : List Char} {tokens : List Token} :
    scan chars = .ok tokens ↔ Lexes [] chars tokens := by
  constructor
  · intro h
    obtain ⟨found, rest, hlexes, rfl | ⟨fault, hrefused⟩⟩ := exists_lexes chars
    · rw [hlexes.scan_eq, scan_nil] at h
      obtain rfl : found = tokens := by simpa [Except.map] using h
      exact hlexes
    · rw [hlexes.scan_eq, hrefused.scan_eq] at h
      cases h
  · intro h
    rw [h.scan_eq, scan_nil]
    simp [Except.map]

theorem scan_eq_error_iff {chars rest : List Char} {fault : LexFault} :
    scan chars = .error (fault, rest) ↔
      (∃ tokens, Lexes rest chars tokens) ∧ Refused fault rest := by
  constructor
  · intro h
    obtain ⟨found, last, hlexes, rfl | ⟨other, hrefused⟩⟩ := exists_lexes chars
    · rw [hlexes.scan_eq, scan_nil] at h
      cases h
    · rw [hlexes.scan_eq, hrefused.scan_eq] at h
      cases h
      exact ⟨⟨found, hlexes⟩, hrefused⟩
  · rintro ⟨⟨tokens, hlexes⟩, hrefused⟩
    rw [hlexes.scan_eq, hrefused.scan_eq]
    rfl

/-- What follows matters only to atoms, which stop in front of it. -/
theorem Lexeme.congr {chars after other : List Char} {token : Token}
    (h : Lexeme chars token after) (hstops : Stops after → Stops other) :
    Lexeme chars token other := by
  cases h with
  | opening => exact .opening
  | closing => exact .closing
  | quote => exact .quote
  | string hbody => exact .string hbody
  | number hatomic hafter hread => exact .number hatomic (hstops hafter) hread
  | symbol hatomic hafter hread => exact .symbol hatomic (hstops hafter) hread

theorem stops_of_append {before rest : List Char} (h : Stops (before ++ rest)) : Stops before := by
  cases before with
  | nil => trivial
  | cons c before => exact h

theorem endsLine_of_append {before rest : List Char} (h : EndsLine (before ++ rest)) :
    EndsLine before := by
  cases before with
  | nil => trivial
  | cons c before => exact h

/-- The text in front of the rest is split in the same way when it stands alone. -/
theorem Lexes.split {rest chars : List Char} {tokens : List Token} (h : Lexes rest chars tokens) :
    ∃ before, chars = before ++ rest ∧ Lexes [] before tokens := by
  induction h with
  | done => exact ⟨[], rfl, .done⟩
  | gap hgap _ ih =>
      obtain ⟨before, rfl, hbefore⟩ := ih
      exact ⟨_ :: before, rfl, .gap hgap hbefore⟩
  | @comment body _ _ hbody hend _ ih =>
      obtain ⟨before, rfl, hbefore⟩ := ih
      exact ⟨';' :: (body ++ before), by simp, .comment hbody (endsLine_of_append hend) hbefore⟩
  | @lexeme chars _ _ _ hlexeme _ ih =>
      obtain ⟨before, rfl, hbefore⟩ := ih
      exact ⟨chars ++ before, by simp, .lexeme (hlexeme.congr stops_of_append) hbefore⟩

/-- The place of a fault is as many bytes into the text as there are in front of it. -/
theorem tokenize_eq_error_iff {input : String} {error : Error} :
    tokenize input = .error error ↔
      ∃ before after fault, input = before ++ after ∧
        scan input.toList = .error (fault, after.toList) ∧
        error = lexError fault input before.utf8ByteSize := by
  have hplace (before after : String) : Excerpt.byteLength (before ++ after).toList -
      Excerpt.byteLength after.toList = before.utf8ByteSize := by
    rw [Excerpt.byteLength_toList, Excerpt.byteLength_toList, String.utf8ByteSize_append,
      Nat.add_sub_cancel]
  constructor
  · intro h
    unfold tokenize at h
    split at h
    · cases h
    · rename_i fault rest hscan
      cases h
      obtain ⟨⟨tokens, hlexes⟩, -⟩ := scan_eq_error_iff.mp hscan
      obtain ⟨start, hstart, -⟩ := hlexes.split
      obtain rfl : input = String.ofList start ++ String.ofList rest := by
        rw [← String.ofList_append, ← hstart, String.ofList_toList]
      have hrest : (String.ofList rest).toList = rest := String.toList_ofList
      refine ⟨_, String.ofList rest, fault, rfl, hrest.symm ▸ hscan, ?_⟩
      rw [← hplace _ (String.ofList rest), hrest]
  · rintro ⟨before, after, fault, rfl, hscan, rfl⟩
    unfold tokenize
    rw [hscan]
    simp only [hplace]

/-- A text is split into tokens exactly if it consists of gaps, comments and their lexemes. One that
is refused can be split up to the place of the fault, where a string literal starts that is never
closed or a blank stands that is no gap. -/
theorem tokenize_lexes (input : String) :
    (∀ tokens, tokenize input = .ok tokens ↔ Lexes [] input.toList tokens) ∧
      ∀ error, tokenize input = .error error →
        ∃ before after fault tokens, input = before ++ after ∧
          error = lexError fault input before.utf8ByteSize ∧
          tokenize before = .ok tokens ∧
          (fault.message = "unterminated string literal" ∧ Unclosed after.toList ∨
            fault.message = "unexpected input" ∧ Stray after.toList) := by
  refine ⟨fun tokens => tokenize_eq_ok_iff.trans scan_eq_ok_iff, fun error herror => ?_⟩
  obtain ⟨before, after, fault, rfl, hscan, rfl⟩ := tokenize_eq_error_iff.mp herror
  obtain ⟨⟨tokens, hlexes⟩, hrefused⟩ := scan_eq_error_iff.mp hscan
  obtain ⟨start, hstart, hbefore⟩ := hlexes.split
  rw [String.toList_append, List.append_cancel_right_eq] at hstart
  refine ⟨before, after, fault, tokens, rfl, rfl, ?_, ?_⟩
  · rw [tokenize_eq_ok_iff, hstart]
    exact scan_eq_ok_iff.mpr hbefore
  · cases hrefused with
    | unclosed h => exact .inl ⟨rfl, h⟩
    | stray h => exact .inr ⟨rfl, h⟩

end Token

end DraftLisp

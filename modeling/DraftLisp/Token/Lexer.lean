import DraftLisp.Error
import DraftLisp.Numeric.Decimal
import DraftLisp.Text.Blank
import DraftLisp.Text.Casing
import DraftLisp.Text.Quoted
import DraftLisp.Token
import DraftLisp.Token.Excerpt

namespace DraftLisp.Token

def isGap (c : Char) : Bool := c = ' ' || c = '\t' || c = '\r' || c = '\n'

def isDelimiter (c : Char) : Bool :=
  Text.isBlank c || c = '(' || c = ')' || c = '\'' || c = '"' || c = ';'

/-- Skips gaps and comments; a comment goes on up to the end of its line. -/
def skipGaps (inComment : Bool) : List Char → List Char
  | [] => []
  | c :: rest =>
    if inComment then skipGaps (c != '\n') rest
    else if isGap c then skipGaps false rest
    else if c = ';' then skipGaps true rest
    else c :: rest

/-- An atom is a number when all of it reads as a finite number, and a symbol otherwise. -/
def ofAtom (atom : List Char) : Token :=
  match Numeric.readFinite? atom with
  | some value => .number value
  | none => .symbol (Text.upper (String.ofList atom))

def scanOne (c : Char) (rest : List Char) : Except LexFault (Token × List Char) :=
  if c = '(' then .ok (.opening, rest)
  else if c = ')' then .ok (.closing, rest)
  else if c = '\'' then .ok (.quote, rest)
  else if c = '"' then
    match Text.Quoted.scan rest with
    | some (text, after) => .ok (.string (String.ofList text), after)
    | none => .error .unterminatedString
  else if isDelimiter c then .error .unexpectedInput
  else .ok (ofAtom (c :: rest.takeWhile (!isDelimiter ·)), rest.dropWhile (!isDelimiter ·))

theorem length_skipGaps_le (inComment : Bool) (chars : List Char) :
    (skipGaps inComment chars).length ≤ chars.length := by
  induction chars generalizing inComment with
  | nil => simp [skipGaps]
  | cons c rest ih =>
    have hfalse := ih false
    have htrue := ih true
    have hbreak := ih (c != '\n')
    simp only [skipGaps, List.length_cons]
    split
    · omega
    · split
      · omega
      · split
        · omega
        · simp

theorem length_le_of_scanOne {c : Char} {rest after : List Char} {token : Token}
    (h : scanOne c rest = .ok (token, after)) : after.length ≤ rest.length := by
  unfold scanOne at h
  split at h
  · simp_all
  split at h
  · simp_all
  split at h
  · simp_all
  split at h
  · split at h
    · rename_i hscan
      simp only [Except.ok.injEq, Prod.mk.injEq] at h
      have := Text.Quoted.length_lt_of_scan hscan
      rw [← h.2]
      omega
    · simp at h
  split at h
  · simp at h
  · simp only [Except.ok.injEq, Prod.mk.injEq] at h
    rw [← h.2]
    exact (List.dropWhile_sublist _).length_le

/-- The tokens of a text, or the fault and the part of the text that starts with it. -/
def scan (chars : List Char) : Except (LexFault × List Char) (List Token) :=
  match _hgaps : skipGaps false chars with
  | [] => .ok []
  | c :: rest =>
    match _hone : scanOne c rest with
    | .error fault => .error (fault, c :: rest)
    | .ok (token, after) =>
      match scan after with
      | .error failure => .error failure
      | .ok tokens => .ok (token :: tokens)
termination_by chars.length
decreasing_by
  have hskip := length_skipGaps_le false chars
  have hafter := length_le_of_scanOne _hone
  rw [_hgaps, List.length_cons] at hskip
  omega

/-- The error for a fault at a byte offset of an input, with the surrounding text. -/
def lexError (fault : LexFault) (input : String) (offset : Nat) : Error :=
  .lex fault offset (some (Excerpt.around input offset))

def tokenize (input : String) : Except Error (List Token) :=
  match scan input.toList with
  | .ok tokens => .ok tokens
  | .error (fault, rest) =>
    .error (lexError fault input (Excerpt.byteLength input.toList - Excerpt.byteLength rest))

end DraftLisp.Token

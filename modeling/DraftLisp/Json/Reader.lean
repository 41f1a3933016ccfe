import DraftLisp.Json.Numeral

namespace DraftLisp.Json

inductive Token where
  | openArray
  | closeArray
  | openObject
  | closeObject
  | colon
  | comma
  | scalar (value : Json)

def hexValue? (c : Char) : Option Nat :=
  if c.isDigit then some (c.toNat - '0'.toNat)
  else if 'a' ≤ c && c ≤ 'f' then some (c.toNat - 'a'.toNat + 10)
  else if 'A' ≤ c && c ≤ 'F' then some (c.toNat - 'A'.toNat + 10)
  else none

def readUnit? : List Char → Option (Nat × List Char)
  | a :: b :: c :: d :: rest => do
    let a ← hexValue? a
    let b ← hexValue? b
    let c ← hexValue? c
    let d ← hexValue? d
    return (((a * 16 + b) * 16 + c) * 16 + d, rest)
  | _ => none

/-- The character of an escaped code unit. A leading surrogate needs its trailing one right behind
it, and a trailing one cannot stand alone. -/
def readCode? (chars : List Char) : Option (Char × List Char) := do
  let (unit, rest) ← readUnit? chars
  if 0xD800 ≤ unit && unit < 0xDC00 then
    match rest with
    | '\\' :: 'u' :: rest =>
      let (low, rest) ← readUnit? rest
      if 0xDC00 ≤ low && low < 0xE000 then
        return (Char.ofNat (0x10000 + (unit - 0xD800) * 0x400 + (low - 0xDC00)), rest)
      else none
    | _ => none
  else if 0xDC00 ≤ unit && unit < 0xE000 then none
  else return (Char.ofNat unit, rest)

/-- The character that a backslash pair stands for, `u` apart. -/
def simpleEscape? (c : Char) : Option Char :=
  if c = '"' || c = '\\' || c = '/' then some c
  else if c = 'b' then some (Char.ofNat 8)
  else if c = 'f' then some (Char.ofNat 12)
  else if c = 'n' then some '\n'
  else if c = 'r' then some '\r'
  else if c = 't' then some '\t'
  else none

theorem length_lt_of_readUnit? {chars rest : List Char} {unit : Nat}
    (h : readUnit? chars = some (unit, rest)) : rest.length < chars.length := by
  unfold readUnit? at h
  split at h
  · simp only [bind, Option.bind_eq_some_iff, Option.pure_def, Option.some.injEq,
      Prod.mk.injEq] at h
    obtain ⟨_, _, _, _, _, _, _, _, _, rfl⟩ := h
    simp only [List.length_cons]
    omega
  · simp at h

theorem length_lt_of_readCode? {chars rest : List Char} {c : Char}
    (h : readCode? chars = some (c, rest)) : rest.length < chars.length := by
  unfold readCode? at h
  simp only [bind, Option.bind_eq_some_iff, Option.pure_def] at h
  obtain ⟨⟨unit, after⟩, hunit, h⟩ := h
  have hafter := length_lt_of_readUnit? hunit
  dsimp only at h
  split at h
  · split at h
    · simp only [Option.bind_eq_some_iff] at h
      obtain ⟨⟨low, later⟩, hlow, h⟩ := h
      have hlater := length_lt_of_readUnit? hlow
      dsimp only at h
      split at h
      · simp only [Option.some.injEq, Prod.mk.injEq] at h
        rw [← h.2]
        simp only [List.length_cons] at hafter
        omega
      · simp at h
    · simp at h
  · split at h
    · simp at h
    · simp only [Option.some.injEq, Prod.mk.injEq] at h
      rw [← h.2]
      exact hafter

/-- Reads one character of a string: itself, or what an escape stands for. -/
def readChar? (c : Char) (rest : List Char) : Option (Char × List Char) :=
  if c = '\\' then
    match rest with
    | [] => none
    | 'u' :: rest => readCode? rest
    | pair :: rest => (simpleEscape? pair).map (·, rest)
  else if c.toNat < 32 then none
  else some (c, rest)

theorem length_le_of_readChar? {c found : Char} {rest after : List Char}
    (h : readChar? c rest = some (found, after)) : after.length ≤ rest.length := by
  unfold readChar? at h
  split at h
  · split at h
    · simp at h
    · have := length_lt_of_readCode? h
      simp only [List.length_cons]
      omega
    · simp only [Option.map_eq_some_iff, Prod.mk.injEq] at h
      obtain ⟨_, _, _, rfl⟩ := h
      simp
  · split at h
    · simp at h
    · simp_all

/-- Reads on from behind an opening quotation mark, up to the closing one. -/
def readString? : List Char → Option (List Char × List Char)
  | [] => none
  | c :: rest =>
    if c = '"' then some ([], rest)
    else
      match _hchar : readChar? c rest with
      | none => none
      | some (found, after) =>
        match readString? after with
        | none => none
        | some (text, later) => some (found :: text, later)
termination_by chars => chars.length
decreasing_by
  have := length_le_of_readChar? _hchar
  simp only [List.length_cons]
  omega

def isGap (c : Char) : Bool := c = ' ' || c = '\n' || c = '\t' || c = '\r'

def dropWord? : List Char → List Char → Option (List Char)
  | [], rest => some rest
  | c :: word, d :: rest => if c = d then dropWord? word rest else none
  | _ :: _, [] => none

def readToken? (c : Char) (rest : List Char) : Option (Token × List Char) :=
  if c = '[' then some (.openArray, rest)
  else if c = ']' then some (.closeArray, rest)
  else if c = '\x7b' then some (.openObject, rest)
  else if c = '\x7d' then some (.closeObject, rest)
  else if c = ':' then some (.colon, rest)
  else if c = ',' then some (.comma, rest)
  else if c = '"' then
    (readString? rest).map fun (text, after) => (.scalar (.string (String.ofList text)), after)
  else if c = 't' then (dropWord? "rue".toList rest).map (.scalar (.bool true), ·)
  else if c = 'f' then (dropWord? "alse".toList rest).map (.scalar (.bool false), ·)
  else if c = 'n' then (dropWord? "ull".toList rest).map (.scalar .null, ·)
  else if c = '-' then (readUnsigned? true rest).map fun (value, after) => (.scalar value, after)
  else (readUnsigned? false (c :: rest)).map fun (value, after) => (.scalar value, after)

/-- The tokens of a text. Every token takes at least one character, so that as many rounds as there
are characters are enough. -/
def tokens? : (rounds : Nat) → List Char → Option (List Token)
  | rounds, chars =>
    match chars.dropWhile isGap with
    | [] => some []
    | c :: rest =>
      match rounds with
      | 0 => none
      | rounds + 1 => do
        let (token, after) ← readToken? c rest
        let others ← tokens? rounds after
        return token :: others

inductive Opening where
  | array (items : List Json)
  | object (members : List (String × Json)) (key : String)

inductive Expecting where
  | value
  | firstItem
  | firstKey (members : List (String × Json))
  | key (members : List (String × Json))
  | colon (members : List (String × Json)) (key : String)
  | separator
  | nothing (result : Json)

structure State where
  openings : List Opening
  expecting : Expecting

/-- Arrays and objects may be nested this deep. -/
def nestingLimit : Nat := 127

def deliver (value : Json) : List Opening → State
  | [] => ⟨[], .nothing value⟩
  | .array items :: outer => ⟨.array (value :: items) :: outer, .separator⟩
  | .object members key :: outer => ⟨.object ((key, value) :: members) key :: outer, .separator⟩

def beginValue? (openings : List Opening) : Token → Option State
  | .scalar value => some (deliver value openings)
  | .openArray =>
    if openings.length < nestingLimit then some ⟨.array [] :: openings, .firstItem⟩ else none
  | .openObject =>
    if openings.length < nestingLimit then some ⟨openings, .firstKey []⟩ else none
  | _ => none

def step? (state : State) (token : Token) : Option State :=
  match state.expecting, token with
  | .value, token => beginValue? state.openings token
  | .firstItem, .closeArray =>
    match state.openings with
    | .array items :: outer => some (deliver (.array items.reverse) outer)
    | _ => none
  | .firstItem, token => beginValue? state.openings token
  | .firstKey _, .closeObject => some (deliver (.object []) state.openings)
  | .firstKey members, .scalar (.string key) => some ⟨state.openings, .colon members key⟩
  | .key members, .scalar (.string key) => some ⟨state.openings, .colon members key⟩
  | .colon members key, .colon => some ⟨.object members key :: state.openings, .value⟩
  | .separator, .comma =>
    match state.openings with
    | .array _ :: _ => some ⟨state.openings, .value⟩
    | .object members _ :: outer => some ⟨outer, .key members⟩
    | [] => none
  | .separator, .closeArray =>
    match state.openings with
    | .array items :: outer => some (deliver (.array items.reverse) outer)
    | _ => none
  | .separator, .closeObject =>
    match state.openings with
    | .object members _ :: outer => some (deliver (ofMembers members.reverse) outer)
    | _ => none
  | _, _ => none

def read? (text : String) : Option Json := do
  let chars := text.toList
  let tokens ← tokens? chars.length chars
  let state ← tokens.foldlM step? ⟨[], .value⟩
  match state.expecting with
  | .nothing result => some result
  | _ => none

end DraftLisp.Json

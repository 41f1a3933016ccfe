import DraftLisp.Text.Casing.Context
import DraftLisp.Text.Casing.Lower
import DraftLisp.Text.Casing.Upper

/-!
Full Unicode case mapping. A character may map to several, and a capital sigma maps to its final
form at the end of a word.
-/

namespace DraftLisp.Text.Casing

/-- One character's mapping; `ascii` answers for the ASCII range, the tables for all else. -/
def mapChar (ascii : Char → Char) (runs : List Run) (expansions : List (Nat × List Nat))
    (c : Char) : List Char :=
  if c.toNat < 128 then [ascii c]
  else match expansions.lookup c.toNat with
    | some codes => codes.map Char.ofNat
    | none => [Char.ofNat (shifted runs c.toNat)]

def upperChar : Char → List Char := mapChar Char.toUpper upperRuns upperExpansions

def lowerChar : Char → List Char := mapChar Char.toLower lowerRuns lowerExpansions

def upperChars (chars : List Char) : List Char := chars.flatMap upperChar

/-- Whether a cased letter comes first once ignorable characters are passed over. -/
def meetsCased (chars : List Char) : Bool :=
  match chars.dropWhile isCaseIgnorable with
  | [] => false
  | c :: _ => isCased c

/-- `before` holds the characters already passed, the nearest first. -/
def lowerFrom (before : List Char) : List Char → List Char
  | [] => []
  | c :: rest =>
    let mapped :=
      if c = 'Σ' then (if meetsCased before && !meetsCased rest then ['ς'] else ['σ'])
      else lowerChar c
    mapped ++ lowerFrom (c :: before) rest

end DraftLisp.Text.Casing

namespace DraftLisp.Text

def upper (text : String) : String := String.ofList (Casing.upperChars text.toList)

def lower (text : String) : String := String.ofList (Casing.lowerFrom [] text.toList)

end DraftLisp.Text

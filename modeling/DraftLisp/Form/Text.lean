import DraftLisp.Form
import DraftLisp.Numeric.Shortest
import DraftLisp.Text.Quoted

namespace DraftLisp

open Numeric

/-- The fewest digits that read back, without an exponent; a zero has no sign. -/
def numberChars (x : Float) : List Char :=
  if x == 0.0 then ['0'] else plainChars x

def numberText (x : Float) : String := String.ofList (numberChars x)

namespace Form

mutual

def chars : Form → List Char
  | .number x => numberChars x
  | .string text => Text.Quoted.encode text.toList
  | .symbol name => name.toList
  | .list items => '(' :: (spaced items ++ [')'])

def spaced : List Form → List Char
  | [] => []
  | [form] => form.chars
  | form :: next :: rest => form.chars ++ ' ' :: spaced (next :: rest)

end

def text (form : Form) : String := String.ofList form.chars

end Form

end DraftLisp

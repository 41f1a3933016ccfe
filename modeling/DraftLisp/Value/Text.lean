import DraftLisp.Form.Text
import DraftLisp.Value

namespace DraftLisp.Value

mutual

def chars : Value → List Char
  | .nil => "nil".toList
  | .truth => ['T']
  | .number x => numberChars x
  | .string text => Text.Quoted.encode text.toList
  | .symbol name => name.toList
  | .list items => '(' :: (spaced items ++ [')'])
  | .closure .. => "#<lambda>".toList
  | .entity id => "<Entity name: ".toList ++ Nat.toDigits 16 id ++ ['>']
  | .selection ids => "<Selection set: ".toList ++ Numeric.digitChars ids.length ++ ['>']

def spaced : List Value → List Char
  | [] => []
  | [value] => value.chars
  | value :: next :: rest => value.chars ++ ' ' :: spaced (next :: rest)

end

def text (value : Value) : String := String.ofList value.chars

/-- The text for a reader: strings without their quotation marks. -/
def displayText : Value → String
  | .string text => text
  | value => value.text

end DraftLisp.Value

import DraftLisp.Json.Reader
import DraftLisp.Numeric.Decimal
import DraftLisp.Text.Blank

namespace DraftLisp.Console

/-- A coordinate as JSON; what is not finite has no JSON number. -/
def coordinate (x : Float) : Json := if x.isFinite then .float x else .null

def coordinates? (line : String) : Option (List Float) :=
  (line.splitOn ",").mapM fun part => Numeric.readFloat? (Text.trim part.toList)

/-- JSON as it is typed, two or more numbers as an array, and all else as a text. -/
def typedAnswer (line : String) : Json :=
  let line := Text.trimmed line
  match Json.read? line with
  | some json => json
  | none =>
    match coordinates? line with
    | some (x :: y :: rest) => .array ((x :: y :: rest).map coordinate)
    | _ => .string line

end DraftLisp.Console

import DraftLisp.Geometry
import DraftLisp.Input
import DraftLisp.Json.Numeral
import DraftLisp.Numeric.Decimal
import DraftLisp.Text.Blank
import DraftLisp.Value

namespace DraftLisp.Answer

open Numeric

/-- A number, or a text that reads as a finite one. -/
def number? : Json → Option Float
  | .integer value => some (ofInt value)
  | .float value => some value
  | .string text => readFinite? (Text.trim text.toList)
  | _ => none

/-- A height that may be left out, and is zero then. -/
def height? : Option Json → Option Float
  | none => some 0.0
  | some json => number? json

def pointValue (x y z : Float) : Value := .list [.number x, .number y, .number z]

/-- A place: an object with the members `x`, `y` and perhaps `z`, or an array of them. -/
def point? (json : Json) : Option Value :=
  match json with
  | .object members => do
    let x ← number? (← members.lookup "x")
    let y ← number? (← members.lookup "y")
    let z ← height? (members.lookup "z")
    return pointValue x y z
  | .array [x, y] => do return pointValue (← number? x) (← number? y) 0.0
  | .array [x, y, z] => do return pointValue (← number? x) (← number? y) (← number? z)
  | _ => none

/-- The number of an entity: an integer that is not negative. -/
def entity? : Json → Option EntityId
  | .integer value => if 0 ≤ value then some value.toNat else none
  | _ => none

/-- A text as it is, or a number as it is written. -/
def text? : Json → Option String
  | .string text => some text
  | .integer value => some (intText value)
  | .float value => some (String.ofList (Json.floatChars value))
  | _ => none

/-- A pick: an entity and the place where it was picked. -/
def pick? (json : Json) : Option Value :=
  match json with
  | .object members => do
    let id ← members.lookup "entity"
    let place ← members.lookup "point"
    return .list [.entity (← entity? id), ← point? place]
  | .array [id, place] => do return .list [.entity (← entity? id), ← point? place]
  | _ => none

def entities? : Json → Option (List EntityId)
  | .array items => items.mapM entity?
  | _ => none

/-- The value of an answer to a request of a kind; nothing when the answer does not fit it. A null
answers every request with nil, angles are given in degrees, and an empty selection is nil. -/
def value? (kind : InputKind) (json : Json) : Option Value :=
  match json with
  | .null => some .nil
  | json =>
    match kind with
    | .point | .corner => point? json
    | .dist | .real => (number? json).map .number
    | .angle => (number? json).map fun degrees => .number (Geometry.radians degrees)
    | .int => (number? json).map fun x => .number (trunc x)
    | .string | .keyword => (text? json).map .string
    | .entsel => pick? json
    | .ssget =>
      (entities? json).map fun ids => if ids.isEmpty then .nil else .selection ids

/-- The value that the script receives: nil for an answer that does not fit. -/
def value (kind : InputKind) (json : Json) : Value := Value.ofOption (value? kind json)

theorem value_eq_getD (kind : InputKind) (json : Json) :
    value kind json = (value? kind json).getD .nil := by
  unfold value
  cases value? kind json <;> rfl

end DraftLisp.Answer

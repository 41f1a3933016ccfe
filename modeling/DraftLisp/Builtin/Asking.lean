import DraftLisp.Builtin.Basic

namespace DraftLisp.Builtin

open Value (expectList expectPoint)

namespace Asking

/-- The prompt and the base point among operands in any order; the last of each counts. -/
def promptAndBase : List Value → String × Option Point → Except Error (String × Option Point)
  | [], found => .ok found
  | .string text :: rest, (_, base) => promptAndBase rest (text, base)
  | .nil :: rest, found => promptAndBase rest found
  | value :: rest, (prompt, _) => do
    promptAndBase rest (prompt, some (← expectPoint value))

def requestFor (kind : InputKind) (operands : List Value) (_ : Drawing) : Except Error Demand := do
  let (prompt, base) ← promptAndBase operands ("", none)
  return .asked ⟨kind, prompt, base⟩

/-- A corner lies opposite to a base point, which must be the first operand. -/
def requestCorner (operands : List Value) (drawing : Drawing) : Except Error Demand := do
  match operands with
  | [] => miscounted 1 operands
  | base :: _ =>
    let _ ← expectPoint base
    requestFor .corner operands drawing

/-- Whether blanks are allowed is up to the user interface, so that only texts are looked at. -/
def requestString (operands : List Value) (drawing : Drawing) : Except Error Demand :=
  requestFor .string (operands.filter (·.string?.isSome)) drawing

/-- The code and the uppercase text of a filter entry. -/
def criterion? (item : Value) : Option (Int × String) :=
  match item with
  | .list [.number code, .string text] => some (Numeric.toInt32 code, Text.upper text)
  | _ => none

/-- Code 0 asks for the type of an entity and code 8 for its layer; other codes ask for nothing. -/
def meets (entity : Entity) : Int × String → Bool
  | (0, text) => entity.shape.typeName == text
  | (8, text) => Text.upper entity.layer == text
  | _ => true

def selectAll (filter : Option Value) (drawing : Drawing) : Except Error Value := do
  let criteria ← match filter with
    | none => pure []
    | some list => do pure ((← expectList list).filterMap criterion?)
  let chosen := drawing.entities.toList.filter fun entity => criteria.all (meets entity)
  return if chosen.isEmpty then .nil else .selection (chosen.map (·.id))

/-- Mode `X` selects from the whole drawing; without a mode the user selects. -/
def selectEntities (operands : List Value) (drawing : Drawing) : Except Error Demand := do
  match operands with
  | .string mode :: rest =>
    if mode.toUpper = "X" then return .answered (← selectAll rest.head? drawing)
    else .error (.eval (.selectionMode mode))
  | _ => return .asked ⟨.ssget, "Select objects: ", none⟩

end Asking

open Asking

def asking : List Builtin :=
  [⟨"GETPOINT", .between 0 2, .input (requestFor .point)⟩,
   ⟨"GETCORNER", .between 1 2, .input requestCorner⟩,
   ⟨"GETDIST", .between 0 2, .input (requestFor .dist)⟩,
   ⟨"GETANGLE", .between 0 2, .input (requestFor .angle)⟩,
   ⟨"GETREAL", .between 0 1, .input (requestFor .real)⟩,
   ⟨"GETINT", .between 0 1, .input (requestFor .int)⟩,
   ⟨"GETSTRING", .between 0 2, .input requestString⟩,
   ⟨"GETKWORD", .between 0 1, .input (requestFor .keyword)⟩,
   ⟨"ENTSEL", .between 0 1, .input (requestFor .entsel)⟩,
   ⟨"SSGET", .between 0 2, .input selectEntities⟩]

end DraftLisp.Builtin

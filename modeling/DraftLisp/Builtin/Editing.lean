import DraftLisp.Builtin.Basic
import DraftLisp.Entity.Groups
import DraftLisp.Geometry

namespace DraftLisp.Builtin

open Value (expectNumber expectPoint expectString expectEntity displayText text)

namespace Editing

def change (step : Drawing → Drawing) : Edit Unit := fun drawing => (.ok (), step drawing)

def ask (question : Drawing → α) : Edit α := fun drawing => (.ok (question drawing), drawing)

/-- A step that the drawing may refuse, and leaves it unchanged then. -/
def attempt (step : Drawing → Except HostFault Drawing) : Edit Unit := fun drawing =>
  match step drawing with
  | .ok changed => (.ok (), changed)
  | .error fault => (.error (.host fault), drawing)

def lift (result : Except Error α) : Edit α := fun drawing => (result, drawing)

def operand (operands : List Value) (index : Nat) : Edit Value :=
  match operands[index]? with
  | some value => lift (.ok value)
  | none => lift (miscounted (index + 1) operands)

def write (text : String) (style : LogStyle) : Edit Unit := change (·.writeLog text style)

/-- An operator that writes its operand and returns it; without one it does nothing. -/
def writing (spell : Value → String) : List Value → Edit Value
  | [] => pure .nil
  | value :: _ => do
    write (spell value) .output
    return value

/-- One undo step: a checkpoint, the change, and a redraw unless the change fails. -/
def undoStep (label : String) (step : Edit α) : Edit α := do
  change (·.checkpoint label)
  let result ← step
  change (·.redraw)
  return result

def existing (operator : String) (id : EntityId) : Edit Entity := do
  match ← ask (·.get? id) with
  | some entity => return entity
  | none => throw (.host (.missingEntity operator id))

def distance (operands : List Value) : Edit Value := do
  let a ← lift (expectPoint (← operand operands 0))
  let b ← lift (expectPoint (← operand operands 1))
  return .number (Geometry.distance a b)

def angle (operands : List Value) : Edit Value := do
  let a ← lift (expectPoint (← operand operands 0))
  let b ← lift (expectPoint (← operand operands 1))
  return .number (Geometry.angle a b)

def polar (operands : List Value) : Edit Value := do
  let origin ← lift (expectPoint (← operand operands 0))
  let angle ← lift (expectNumber (← operand operands 1))
  let distance ← lift (expectNumber (← operand operands 2))
  return .ofPoint (Geometry.polar origin angle distance)

/-- A fifth operand that is nil extends the lines beyond their points. -/
def inters (operands : List Value) : Edit Value := do
  let a1 ← lift (expectPoint (← operand operands 0))
  let a2 ← lift (expectPoint (← operand operands 1))
  let b1 ← lift (expectPoint (← operand operands 2))
  let b2 ← lift (expectPoint (← operand operands 3))
  let onSegment := (operands[4]?.map Value.isTruthy).getD true
  return .ofOption ((Geometry.intersection? a1 a2 b1 b2 onSegment).map .ofPoint)

def entget (operands : List Value) : Edit Value := do
  let id ← lift (expectEntity (← operand operands 0))
  return .ofOption ((← ask (·.get? id)).map Groups.describe)

def entmod (operands : List Value) : Edit Value := do
  let list ← operand operands 0
  match Groups.entityId? list with
  | none => throw (.type (.noEntityName list))
  | some id =>
    let entity ← existing "entmod" id
    let data ← lift (Groups.overwrite list entity.toEntityData)
    undoStep "entmod" (attempt (·.update id data true))
    return list

def entmake (operands : List Value) : Edit Value := do
  let list ← operand operands 0
  let data ← lift (Groups.create list (← ask (·.currentLayer)))
  undoStep "entmake" (change fun drawing => (drawing.add data true).2)
  return list

def entdel (operands : List Value) : Edit Value := do
  let id ← lift (expectEntity (← operand operands 0))
  let _ ← existing "entdel" id
  undoStep "entdel" (attempt (·.remove id true))
  return .entity id

/-- The first entity, or the one that was created next after a given one. -/
def entnext (operands : List Value) : Edit Value := do
  let ids ← ask (·.ids)
  match operands with
  | [] => return .ofOption (ids.head?.map .entity)
  | after :: _ =>
    let after ← lift (expectEntity after)
    let place := ids.findIdx? (· == after)
    return .ofOption ((place.bind fun i => ids[i + 1]?).map .entity)

def entlast (_ : List Value) : Edit Value := do
  return .ofOption ((← ask (·.entities.back?)).map (.entity ·.id))

def entupd (operands : List Value) : Edit Value := do
  let id ← lift (expectEntity (← operand operands 0))
  let _ ← existing "entupd" id
  change (·.redraw)
  return .entity id

/-- The name of a command: uppercase, without the marks `_` and `.` in front. -/
def commandName (value : Value) : Except Error String := do
  let chars := (← expectString value).toList.dropWhile fun c => c = '_' || c = '.'
  return Text.upper (String.ofList chars)

/-- The text that a command receives for a value. -/
def commandText : Value → String
  | .nil => ""
  | value => value.displayText

/-- Feeds one argument to the running command: a point as a click, all else as text. -/
def feed (value : Value) : Edit Unit := do
  match value.point? with
  | some point => change (·.send (.click point))
  | none => change (·.send (.input (commandText value)))
  change (·.send .settle)

def feedAll : List Value → Edit Unit
  | [] => pure ()
  | value :: rest => do
    feed value
    feedAll rest

/-- Runs a command step by step; without operands it cancels the running one. -/
def command (operands : List Value) : Edit Value := do
  match operands with
  | [] =>
    change (·.send .cancel)
    return .nil
  | first :: rest =>
    let name ← lift (commandName first)
    undoStep name do
      attempt (·.startCommand name)
      change (·.send .settle)
      feedAll rest
    return .nil

/-- The text of an argument for a command that runs at once; a point is two numbers and a comma. -/
def argumentText (value : Value) : String :=
  match value.point? with
  | some point => numberText point.x ++ "," ++ numberText point.y
  | none => commandText value

def commandAtOnce (operands : List Value) : Edit Value := do
  let name ← lift (commandName (← operand operands 0))
  undoStep name (attempt (·.execute name (operands.tail.map argumentText)))
  return .truth

def getvar (operands : List Value) : Edit Value := do
  let name := Text.upper (← lift (expectString (← operand operands 0)))
  match ← ask (·.setting? name) with
  | some (.number value) => return .number value
  | some (.text content) => return .string content
  | none => return .nil

def setvar (operands : List Value) : Edit Value := do
  let name := Text.upper (← lift (expectString (← operand operands 0)))
  let value ← operand operands 1
  match value with
  | .number x => change (·.setSetting name (.number x))
  | .string content => change (·.setSetting name (.text content))
  | other => throw (.type (.operand "setvar" "number or string" other))
  return value

def prompt (operands : List Value) : Edit Value := do
  write (← lift (expectString (← operand operands 0))) .prompt
  return .nil

def terpri (_ : List Value) : Edit Value := do
  write "\n" .output
  return .nil

def alert (operands : List Value) : Edit Value := do
  write (← operand operands 0).displayText .alert
  return .nil

end Editing

open Editing

def editing : List Builtin :=
  [⟨"PRINC", .between 0 1, .edit (writing displayText)⟩,
   ⟨"PRIN1", .between 0 1, .edit (writing text)⟩,
   ⟨"PRINT", .between 0 1, .edit (writing fun value => "\n" ++ value.text ++ " ")⟩,
   ⟨"PROMPT", .exactly 1, .edit prompt⟩,
   ⟨"TERPRI", .exactly 0, .edit terpri⟩,
   ⟨"ALERT", .exactly 1, .edit alert⟩,
   ⟨"DISTANCE", .exactly 2, .edit distance⟩,
   ⟨"ANGLE", .exactly 2, .edit angle⟩,
   ⟨"POLAR", .exactly 3, .edit polar⟩,
   ⟨"INTERS", .between 4 5, .edit inters⟩,
   ⟨"ENTGET", .exactly 1, .edit entget⟩,
   ⟨"ENTMOD", .exactly 1, .edit entmod⟩,
   ⟨"ENTMAKE", .exactly 1, .edit entmake⟩,
   ⟨"ENTDEL", .exactly 1, .edit entdel⟩,
   ⟨"ENTNEXT", .between 0 1, .edit entnext⟩,
   ⟨"ENTLAST", .exactly 0, .edit entlast⟩,
   ⟨"ENTUPD", .exactly 1, .edit entupd⟩,
   ⟨"COMMAND", .any, .edit command⟩,
   ⟨"COMMAND-S", .atLeast 1, .edit commandAtOnce⟩,
   ⟨"GETVAR", .exactly 1, .edit getvar⟩,
   ⟨"SETVAR", .exactly 2, .edit setvar⟩]

end DraftLisp.Builtin

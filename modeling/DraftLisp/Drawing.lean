import DraftLisp.Bindings
import DraftLisp.Entity
import DraftLisp.Error

namespace DraftLisp

inductive LogStyle where
  | output
  | result
  | prompt
  | error
  | alert
  deriving Repr, DecidableEq, Inhabited

inductive Setting where
  | number (value : Float)
  | text (content : String)
  deriving Repr, DecidableEq, Inhabited

inductive CommandEvent where
  | execute (name : String) (arguments : List String)
  | start (name : String)
  | click (point : Point)
  | input (text : String)
  | cancel
  | settle
  deriving Repr, DecidableEq, Inhabited

inductive JournalEntry where
  | checkpoint (label : String)
  | add (id : EntityId)
  | update (id : EntityId)
  | remove (id : EntityId)
  | redraw
  deriving Repr, DecidableEq, Inhabited

def JournalEntry.text : JournalEntry → String
  | .checkpoint label => "checkpoint " ++ label
  | .add id => "add " ++ id.repr
  | .update id => "update " ++ id.repr
  | .remove id => "remove " ++ id.repr
  | .redraw => "redraw"

structure Drawing where
  entities : Array Entity
  nextId : EntityId
  /-- The labels of the undo checkpoints, oldest first. -/
  checkpoints : Array String
  redraws : Nat
  log : Array (String × LogStyle)
  commands : Array CommandEvent
  settings : Bindings Setting
  /-- Checkpoints, changes and redraws as they interleave. -/
  journal : Array JournalEntry
  deriving Inhabited

namespace Drawing

def empty : Drawing where
  entities := #[]
  nextId := 1
  checkpoints := #[]
  redraws := 0
  log := #[]
  commands := #[]
  settings :=
    [("CLAYER", .text "0"), ("OSMODE", .number 0.0), ("SNAPMODE", .number 0.0),
     ("GRIDMODE", .number 0.0), ("ORTHOMODE", .number 0.0)]
  journal := #[]

def output (drawing : Drawing) (style : LogStyle) : String :=
  String.join ((drawing.log.toList.filter (·.2 = style)).map (·.1))

def record (entry : JournalEntry) (drawing : Drawing) : Drawing :=
  { drawing with journal := drawing.journal.push entry }

def checkpoint (label : String) (drawing : Drawing) : Drawing :=
  { drawing with checkpoints := drawing.checkpoints.push label }.record (.checkpoint label)

/-- A checkpoint of its own, unless the caller has made one. -/
def checkpointUnless (skip : Bool) (label : String) (drawing : Drawing) : Drawing :=
  if skip then drawing else drawing.checkpoint label

def redraw (drawing : Drawing) : Drawing :=
  { drawing with redraws := drawing.redraws + 1 }.record .redraw

def writeLog (text : String) (style : LogStyle) (drawing : Drawing) : Drawing :=
  { drawing with log := drawing.log.push (text, style) }

def get? (drawing : Drawing) (id : EntityId) : Option Entity :=
  drawing.entities.find? (·.id = id)

def ids (drawing : Drawing) : List EntityId := drawing.entities.toList.map (·.id)

def add (data : EntityData) (skipUndo : Bool) (drawing : Drawing) : EntityId × Drawing :=
  let id := drawing.nextId
  let marked := drawing.checkpointUnless skipUndo "add"
  let entity : Entity := { data with id }
  (id, { marked with entities := marked.entities.push entity, nextId := id + 1 }.record (.add id))

def update (id : EntityId) (data : EntityData) (skipUndo : Bool) (drawing : Drawing) :
    Except HostFault Drawing :=
  if drawing.entities.any (·.id = id) then
    let marked := drawing.checkpointUnless skipUndo "update"
    let change (entity : Entity) : Entity := if entity.id = id then { data with id } else entity
    .ok ({ marked with entities := marked.entities.map change }.record (.update id))
  else .error (.unknownId id)

def remove (id : EntityId) (skipUndo : Bool) (drawing : Drawing) : Except HostFault Drawing :=
  if drawing.entities.any (·.id = id) then
    let marked := drawing.checkpointUnless skipUndo "remove"
    let kept := marked.entities.filter (·.id ≠ id)
    .ok ({ marked with entities := kept }.record (.remove id))
  else .error (.unknownId id)

/-- Removes all entities with one of the numbers, as one undo step. -/
def removeMany (ids : List EntityId) (skipUndo : Bool) (drawing : Drawing) : Drawing :=
  let marked := drawing.checkpointUnless skipUndo "remove"
  let gone := marked.entities.filter (ids.contains ·.id)
  let kept := marked.entities.filter (!ids.contains ·.id)
  gone.foldl (fun rest entity => rest.record (.remove entity.id)) { marked with entities := kept }

def send (event : CommandEvent) (drawing : Drawing) : Drawing :=
  { drawing with commands := drawing.commands.push event }

/-- Runs a command with all of its arguments at once. -/
def execute (name : String) (arguments : List String) (drawing : Drawing) :
    Except HostFault Drawing :=
  if name.isEmpty then .error .emptyCommandName
  else .ok (drawing.send (.execute name arguments))

/-- Starts a command that is then fed step by step. -/
def startCommand (name : String) (drawing : Drawing) : Except HostFault Drawing :=
  if name.isEmpty then .error .emptyCommandName else .ok (drawing.send (.start name))

def setting? (drawing : Drawing) (name : String) : Option Setting := drawing.settings.get? name

def setSetting (name : String) (value : Setting) (drawing : Drawing) : Drawing :=
  { drawing with settings := drawing.settings.put name value }

def currentLayer (drawing : Drawing) : String :=
  match drawing.setting? "CLAYER" with
  | some (.text layer) => if layer.isEmpty then "0" else layer
  | _ => "0"

end Drawing

end DraftLisp

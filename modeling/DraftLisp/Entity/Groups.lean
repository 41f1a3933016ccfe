import DraftLisp.Entity
import DraftLisp.Error

/-!
Entities as association lists of group codes: `-1` the name, `0` the type, `8` the layer, `10` and
`20` the main point, `11` and `21` the end of a line, `40` a radius or a text height, `50` and `51`
angles, `70` whether a polyline is closed, `1` the content of a text. The codes `30` and `31` of
heights above the plane are written as zero and not read.
-/

namespace DraftLisp.Groups

def entry (code : Int) (value : Value) : Value := .list [.number (Numeric.ofInt code), value]

def real (code : Int) (x : Float) : Value := entry code (.number x)

def pointEntries (code : Int) (p : Point) : List Value :=
  [real code p.x, real (code + 10) p.y, real (code + 20) 0.0]

def vertexEntries (vertices : List Point) : List Value :=
  vertices.flatMap fun p => [real 10 p.x, real 20 p.y]

def shapeEntries : Shape → List Value
  | .line start finish => pointEntries 10 start ++ pointEntries 11 finish
  | .circle center radius => pointEntries 10 center ++ [real 40 radius]
  | .arc center radius startAngle endAngle =>
    pointEntries 10 center ++ [real 40 radius, real 50 startAngle, real 51 endAngle]
  | .polyline vertices closed => real 70 (if closed then 1 else 0) :: vertexEntries vertices
  | .text position height rotation content =>
    pointEntries 10 position ++ [real 40 height, real 50 rotation, entry 1 (.string content)]

def describe (entity : Entity) : Value :=
  .list ([entry (-1) (.entity entity.id), entry 0 (.string entity.shape.typeName),
    entry 8 (.string entity.layer)] ++ shapeEntries entity.shape)

/-- The code and value of a well-formed entry: two elements, the first a whole number. -/
def pair? (item : Value) : Option (Int × Value) :=
  match item with
  | .list [.number code, value] =>
    if Numeric.isWhole code then some (Numeric.toInt32 code, value) else none
  | _ => none

/-- The well-formed entries of a list, in order; all others are skipped. -/
def pairs (list : Value) : Except Error (List (Int × Value)) :=
  match list.items? with
  | some items => .ok (items.filterMap pair?)
  | none => .error (.type (.expected "association list" list))

def number (code : Int) (value : Value) : Except Error Float :=
  match value with
  | .number x => .ok x
  | _ => .error (.type (.group code "number" value))

def text (code : Int) (value : Value) : Except Error String :=
  match value with
  | .string content => .ok content
  | _ => .error (.type (.group code "string" value))

/-- An entity that is being overwritten, with the vertex coordinates met so far, the latest
first. -/
structure Draft where
  data : EntityData
  xs : List Float
  ys : List Float

namespace Draft

def begin (data : EntityData) : Draft := ⟨data, [], []⟩

def withShape (draft : Draft) (shape : Shape) : Draft :=
  { draft with data := { draft.data with shape } }

/-- The lowest bit of a number taken as a 64-bit integer. -/
def lowBit (x : Float) : Bool := Numeric.toInt64 x % 2 == 1

/-- Overwrites the field that a code names; other codes change nothing. -/
def put (draft : Draft) (code : Int) (value : Value) : Except Error Draft :=
  if code = 8 then do
    let layer ← text code value
    return { draft with data := { draft.data with layer } }
  else
    match draft.data.shape, code with
    | .line start finish, 10 => do
      return draft.withShape (.line { start with x := ← number code value } finish)
    | .line start finish, 20 => do
      return draft.withShape (.line { start with y := ← number code value } finish)
    | .line start finish, 11 => do
      return draft.withShape (.line start { finish with x := ← number code value })
    | .line start finish, 21 => do
      return draft.withShape (.line start { finish with y := ← number code value })
    | .circle center radius, 10 => do
      return draft.withShape (.circle { center with x := ← number code value } radius)
    | .circle center radius, 20 => do
      return draft.withShape (.circle { center with y := ← number code value } radius)
    | .circle center _, 40 => do
      return draft.withShape (.circle center (← number code value))
    | .arc center radius first last, 10 => do
      return draft.withShape (.arc { center with x := ← number code value } radius first last)
    | .arc center radius first last, 20 => do
      return draft.withShape (.arc { center with y := ← number code value } radius first last)
    | .arc center _ first last, 40 => do
      return draft.withShape (.arc center (← number code value) first last)
    | .arc center radius _ last, 50 => do
      return draft.withShape (.arc center radius (← number code value) last)
    | .arc center radius first _, 51 => do
      return draft.withShape (.arc center radius first (← number code value))
    | .polyline _ _, 10 => do
      return { draft with xs := (← number code value) :: draft.xs }
    | .polyline _ _, 20 => do
      return { draft with ys := (← number code value) :: draft.ys }
    | .polyline vertices _, 70 => do
      return draft.withShape (.polyline vertices (lowBit (← number code value)))
    | .text position height rotation content, 10 => do
      return draft.withShape
        (.text { position with x := ← number code value } height rotation content)
    | .text position height rotation content, 20 => do
      return draft.withShape
        (.text { position with y := ← number code value } height rotation content)
    | .text position _ rotation content, 40 => do
      return draft.withShape (.text position (← number code value) rotation content)
    | .text position height _ content, 50 => do
      return draft.withShape (.text position height (← number code value) content)
    | .text position height rotation _, 1 => do
      return draft.withShape (.text position height rotation (← text code value))
    | _, _ => .ok draft

/-- Overwrites entry by entry, up to the first that fails. -/
def putAll (draft : Draft) : List (Int × Value) → Draft × Option Error
  | [] => (draft, none)
  | (code, value) :: rest =>
    match draft.put code value with
    | .ok next => next.putAll rest
    | .error error => (draft, some error)

/-- One vertex for each x; a missing y is zero. -/
def vertices : List Float → List Float → List Point
  | [], _ => []
  | x :: xs, [] => ⟨x, 0.0⟩ :: vertices xs []
  | x :: xs, y :: ys => ⟨x, y⟩ :: vertices xs ys

/-- The entity once all entries are in: new vertices, if any were given, replace the old ones. -/
def finish (draft : Draft) : EntityData :=
  match draft.data.shape with
  | .polyline _ closed =>
    if draft.xs.isEmpty then draft.data
    else { draft.data with shape := .polyline (vertices draft.xs.reverse draft.ys.reverse) closed }
  | _ => draft.data

end Draft

/-- Overwrites the fields that a list names. With an error comes what was overwritten before it. -/
def overwriting (list : Value) (data : EntityData) : EntityData × Option Error :=
  match pairs list with
  | .error error => (data, some error)
  | .ok entries =>
    match (Draft.begin data).putAll entries with
    | (draft, none) => (draft.finish, none)
    | (draft, some error) => (draft.data, some error)

/-- Overwrites the fields that a list names, all or none. -/
def overwrite (list : Value) (data : EntityData) : Except Error EntityData :=
  match overwriting list data with
  | (changed, none) => .ok changed
  | (_, some error) => .error error

def defaultShape? : String → Option Shape
  | "LINE" => some (.line .origin .origin)
  | "CIRCLE" => some (.circle .origin 10.0)
  | "ARC" => some (.arc .origin 10.0 0.0 90.0)
  | "LWPOLYLINE" => some (.polyline [] false)
  | "TEXT" => some (.text .origin 10.0 0.0 "")
  | _ => none

/-- A new entity from a list that names its type; what the list does not name has its default. -/
def create (list : Value) (defaultLayer : String) : Except Error EntityData := do
  match (← pairs list).lookup 0 with
  | none => .error (.eval .noEntityType)
  | some value =>
    let typeName := Text.upper (← text 0 value)
    match defaultShape? typeName with
    | none => .error (.eval (.unsupportedType typeName))
    | some shape => overwrite list ⟨defaultLayer, shape⟩

def entityId? (list : Value) : Option EntityId :=
  match pairs list with
  | .error _ => none
  | .ok entries =>
    entries.findSome? fun
      | (-1, .entity id) => some id
      | _ => none

end DraftLisp.Groups

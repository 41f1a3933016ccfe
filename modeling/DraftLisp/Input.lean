import DraftLisp.Geometry.Point

namespace DraftLisp

inductive InputKind where
  | point
  | corner
  | dist
  | angle
  | real
  | int
  | string
  | keyword
  | entsel
  | ssget
  deriving Repr, DecidableEq, Inhabited

def InputKind.name : InputKind → String
  | .point => "point"
  | .corner => "corner"
  | .dist => "dist"
  | .angle => "angle"
  | .real => "real"
  | .int => "int"
  | .string => "string"
  | .keyword => "keyword"
  | .entsel => "entsel"
  | .ssget => "ssget"

/-- A request that is shown to the user while the script waits. -/
structure Request where
  kind : InputKind
  prompt : String
  /-- Where a rubber band to the picked place starts. -/
  base : Option Point
  deriving Repr, DecidableEq, Inhabited

end DraftLisp

import DraftLisp.Geometry.Point
import DraftLisp.Value

namespace DraftLisp

/-- What an entity looks like. Angles are in degrees. -/
inductive Shape where
  | line (start finish : Point)
  | circle (center : Point) (radius : Float)
  | arc (center : Point) (radius startAngle endAngle : Float)
  | polyline (vertices : List Point) (closed : Bool)
  | text (position : Point) (height rotation : Float) (content : String)
  deriving Repr, DecidableEq, Inhabited

def Shape.typeName : Shape → String
  | .line .. => "LINE"
  | .circle .. => "CIRCLE"
  | .arc .. => "ARC"
  | .polyline .. => "LWPOLYLINE"
  | .text .. => "TEXT"

structure EntityData where
  layer : String
  shape : Shape
  deriving Repr, DecidableEq, Inhabited

structure Entity extends EntityData where
  id : EntityId
  deriving Repr, DecidableEq, Inhabited

end DraftLisp

import DraftLisp.Geometry.Point
import DraftLisp.Numeric.Dyadic

namespace DraftLisp.Geometry

/-- One correction step on the length of the diagonal of a rectangle with sides `long ≥ short`. -/
def correctedDiagonal (long short : Float) : Float :=
  let diagonal := Float.sqrt (long * long + short * short)
  if diagonal ≤ 2.0 * short then
    let excess := diagonal - short
    let first := long * (2.0 * excess - long)
    let second := (excess - 2.0 * (long - short)) * excess
    diagonal - (first + second) / (2.0 * diagonal)
  else
    let excess := diagonal - long
    let first := 2.0 * excess * (long - 2.0 * short)
    let second := (4.0 * excess - short) * short + excess * excess
    diagonal - (first + second) / (2.0 * diagonal)

/-- Sides beyond `2 ^ 511` are scaled down and sides below `2 ^ -459` up before they are squared; a
side below the rounding of the other does not count. -/
def diagonal (long short : Float) : Float :=
  let negligible := Numeric.powerOfTwo (-54)
  let scale := Numeric.powerOfTwo (-600)
  if Numeric.powerOfTwo 511 < long then
    if short ≤ long * negligible then long + short
    else correctedDiagonal (long * scale) (short * scale) / scale
  else if short < Numeric.powerOfTwo (-459) then
    if short / negligible ≤ long then long + short
    else correctedDiagonal (long / scale) (short / scale) * scale
  else if short ≤ long * negligible then long + short
  else correctedDiagonal long short

/-- The length of the hypotenuse over two legs. An infinite leg makes it infinite. -/
def hypotenuse (x y : Float) : Float :=
  if x.isInf || y.isInf then Numeric.infinity
  else if x.isNaN || y.isNaN then x + y
  else
    let x := x.abs
    let y := y.abs
    if x < y then diagonal y x else diagonal x y

def distance (a b : Point) : Float := hypotenuse (b.x - a.x) (b.y - a.y)

def fullTurn : Float := 6.283185307179586

def floorRemainder (x y : Float) : Float :=
  let rest := Numeric.remainder x y
  if rest < 0.0 then rest + y else rest

/-- The direction from `a` to `b`, counterclockwise from the x axis. A direction just below the axis
rounds to the full turn. -/
def angle (a b : Point) : Float := floorRemainder (Float.atan2 (b.y - a.y) (b.x - a.x)) fullTurn

def polar (origin : Point) (angle distance : Float) : Point :=
  ⟨origin.x + distance * angle.cos, origin.y + distance * angle.sin⟩

/-- Lines whose directions have a smaller cross product count as parallel. -/
def parallelBound : Float := 1e-12

def onUnitSegment (t : Float) : Bool := 0.0 ≤ t && t ≤ 1.0

/-- Where the lines through `a1`, `a2` and through `b1`, `b2` meet; with `onSegment` the point must
lie between the points of both pairs. -/
def intersection? (a1 a2 b1 b2 : Point) (onSegment : Bool) : Option Point :=
  let ax := a2.x - a1.x
  let ay := a2.y - a1.y
  let bx := b2.x - b1.x
  let by' := b2.y - b1.y
  let cross := ax * by' - ay * bx
  if cross.abs < parallelBound then none
  else
    let t := ((b1.x - a1.x) * by' - (b1.y - a1.y) * bx) / cross
    let u := ((b1.x - a1.x) * ay - (b1.y - a1.y) * ax) / cross
    if onSegment && !(onUnitSegment t && onUnitSegment u) then none
    else some ⟨a1.x + t * ax, a1.y + t * ay⟩

def radians (degrees : Float) : Float := degrees * 0.017453292519943295

end DraftLisp.Geometry

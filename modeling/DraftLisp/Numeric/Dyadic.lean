import DraftLisp.Numeric.Nearest

/-!
The exact value of a 64-bit float: an integer times a power of two. Truncation, the test for whole
numbers, conversion to bounded integers and the remainder are computed on it without rounding.
-/

namespace DraftLisp.Numeric

/-- The value `mantissa * 2 ^ exponent`, negated when `negative` holds. -/
structure Dyadic where
  negative : Bool
  mantissa : Nat
  exponent : Int
  deriving DecidableEq, Repr

namespace Dyadic

/-- The bit that is set in negative floats: `2 ^ 63`. -/
def signBit : Nat := 0x8000000000000000

def ofFloat? (x : Float) : Option Dyadic :=
  let bits := x.toBits.toNat
  let negative := decide (signBit ≤ bits)
  let biased : Nat := bits / hiddenBit % 2048
  let fraction := bits % hiddenBit
  if biased = 2047 then none
  else if biased = 0 then some ⟨negative, fraction, -1074⟩
  else some ⟨negative, hiddenBit + fraction, (biased : Int) - 1075⟩

def numerator (d : Dyadic) : Nat := d.mantissa * Nat.pow 2 d.exponent.toNat

def denominator (d : Dyadic) : Nat := Nat.pow 2 (-d.exponent).toNat

def signed (d : Dyadic) (magnitude : Nat) : Int :=
  if d.negative then -(magnitude : Int) else magnitude

/-- The whole part, rounded toward zero. -/
def truncate (d : Dyadic) : Int := d.signed (d.numerator / d.denominator)

def isWhole (d : Dyadic) : Bool := d.numerator % d.denominator == 0

/-- The float with the value, or the nearest one. -/
def toFloat (d : Dyadic) : Float := withSign d.negative (nearest d.numerator d.denominator)

theorem denominator_pos (d : Dyadic) : 0 < d.denominator := Nat.two_pow_pos _

end Dyadic

def isWhole (x : Float) : Bool :=
  match Dyadic.ofFloat? x with
  | some d => d.isWhole
  | none => false

/-- The float as an integer between two bounds: fractions are cut off, values outside the bounds
give the nearer one, and a value that is not a number gives zero. -/
def clampInto (low high : Int) (x : Float) : Int :=
  match Dyadic.ofFloat? x with
  | some d => max low (min high d.truncate)
  | none => if x.isNaN then 0 else if x < 0 then low else high

def toInt64 : Float → Int := clampInto (-0x8000000000000000) 0x7FFFFFFFFFFFFFFF

def toInt32 : Float → Int := clampInto (-0x80000000) 0x7FFFFFFF

def toNat64 (x : Float) : Nat := (clampInto 0 0xFFFFFFFFFFFFFFFF x).toNat

def toNat32 (x : Float) : Nat := (clampInto 0 0xFFFFFFFF x).toNat

/-- A float without its fraction; the sign survives, also on zero. -/
def trunc (x : Float) : Float :=
  match Dyadic.ofFloat? x with
  | none => x
  | some d =>
    if d.isWhole then x
    else withSign d.negative (ofNat (d.numerator / d.denominator))

/-- The float `2 ^ exponent`, for exponents that a float can hold. -/
def powerOfTwo (exponent : Int) : Float := Dyadic.toFloat ⟨false, 1, exponent⟩

/-- What is left of `x` after the whole multiples of `y` are taken out, with the sign of `x`.
The result is exact. -/
def remainder (x y : Float) : Float :=
  match Dyadic.ofFloat? x, Dyadic.ofFloat? y with
  | some a, some b =>
    if b.mantissa = 0 then notANumber
    else
      let exponent := min a.exponent b.exponent
      let left := a.mantissa * Nat.pow 2 (a.exponent - exponent).toNat
      let right := b.mantissa * Nat.pow 2 (b.exponent - exponent).toNat
      Dyadic.toFloat ⟨a.negative, left % right, exponent⟩
  | some _, none => if y.isNaN then y else x
  | none, _ => notANumber

end DraftLisp.Numeric

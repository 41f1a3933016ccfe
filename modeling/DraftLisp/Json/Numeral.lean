import DraftLisp.Json
import DraftLisp.Numeric.Shortest

/-!
Numbers of JSON. Integers of 64 bits are kept as integers. Every other number is computed as its
leading digits, as many as fit 64 bits, multiplied or divided by a power of ten in floating point;
a number beyond the greatest float is refused.
-/

namespace DraftLisp.Json

/-- The significand may not exceed this bound. -/
def significandLimit : Nat := 0xFFFFFFFFFFFFFFFF

/-- Appends digits to a significand as long as it keeps within its bound; also the digits left. -/
def absorb (significand : Nat) : List Char → Nat × List Char
  | [] => (significand, [])
  | c :: rest =>
    let next := significand * 10 + (c.toNat - '0'.toNat)
    if next ≤ significandLimit then absorb next rest else (significand, c :: rest)

def powerOfTen (n : Nat) : Float := Numeric.ofNat (Nat.pow 10 n)

/-- Divides by a power of ten, in rounds where the power is no float. -/
def divideDown (x : Float) (power : Nat) : Float :=
  if power ≤ 308 then x / powerOfTen power
  else if x == 0.0 then x
  else divideDown (x / powerOfTen 308) (power - 308)
termination_by power

def scale? (significand : Nat) (exponent : Int) : Option Float :=
  let x := Numeric.ofNat significand
  if exponent < 0 then some (divideDown x exponent.natAbs)
  else if 308 < exponent then (if significand = 0 then some x else none)
  else
    let scaled := x * powerOfTen exponent.toNat
    if scaled.isInf then none else some scaled

/-- The greatest exponent that is computed with; beyond it only zero and the sign matter. -/
def exponentLimit : Nat := 0x7FFFFFFF

/-- The magnitude of a number with a fraction or an exponent. -/
def magnitude? (whole fraction : List Char) (exponent : Option (Bool × Nat)) : Option Float :=
  let (leading, wholeLeft) := absorb 0 whole
  let (significand, fractionLeft) := absorb leading fraction
  let start : Int := wholeLeft.length - (fraction.length - fractionLeft.length : Nat)
  match exponent with
  | none => scale? significand start
  | some (negative, power) =>
    if exponentLimit < power then
      if significand = 0 || negative then some 0.0 else none
    else scale? significand (if negative then start - power else start + power)

/-- The greatest magnitude of a negative integer. -/
def negativeLimit : Nat := 0x8000000000000000

/-- An integer, or the float that stands for it when it does not fit 64 bits. -/
def ofWhole? (negative : Bool) (whole : List Char) : Option Json :=
  let value := Numeric.digitsValueUpTo (significandLimit + 1) whole
  if negative then
    if value = 0 then some (.float (-0.0))
    else if value ≤ negativeLimit then some (.integer (-(value : Int)))
    else (magnitude? whole [] none).map fun x => .float (-x)
  else if value ≤ significandLimit then some (.integer value)
  else (magnitude? whole [] none).map .float

def someDigits? (chars : List Char) : Option (List Char × List Char) :=
  match chars.span Char.isDigit with
  | ([], _) => none
  | (digits, rest) => some (digits, rest)

/-- The whole part of a number: a zero alone or digits that start with another one. -/
def wholePart? (chars : List Char) : Option (List Char × List Char) :=
  match someDigits? chars with
  | some ('0' :: _ :: _, _) => none
  | found => found

def fractionPart? : List Char → Option (Option (List Char) × List Char)
  | '.' :: rest => (someDigits? rest).map fun (digits, after) => (some digits, after)
  | chars => some (none, chars)

/-- The exponent: nothing, or a mark, an optional sign and at least one digit. -/
def exponentPart? : List Char → Option (Option (Bool × Nat) × List Char)
  | [] => some (none, [])
  | c :: rest =>
    if c = 'e' || c = 'E' then
      let (negative, unsigned) := Numeric.splitSign rest
      (someDigits? unsigned).map fun (digits, after) =>
        (some (negative, Numeric.digitsValueUpTo (exponentLimit + 1) digits), after)
    else some (none, c :: rest)

/-- Reads a number at the start of a text, behind its sign. -/
def readUnsigned? (negative : Bool) (chars : List Char) : Option (Json × List Char) := do
  let (whole, afterWhole) ← wholePart? chars
  let (fraction, afterFraction) ← fractionPart? afterWhole
  let (exponent, rest) ← exponentPart? afterFraction
  let value ←
    if fraction.isNone && exponent.isNone then ofWhole? negative whole
    else (magnitude? whole (fraction.getD []) exponent).map fun x =>
      .float (if negative then -x else x)
  return (value, rest)

/-- Writes a float: a fraction always, positional from `0.00001` up to below `10 ^ 16`, and with an
exponent beyond. Of two equally near numerals the even one is written. What is not finite is
written as null. -/
def floatChars (x : Float) : List Char :=
  match Numeric.Dyadic.ofFloat? x with
  | none => "null".toList
  | some d =>
    let shortest := Numeric.Shortest.magnitude .toEven d x
    let digits := Numeric.digitChars shortest.digits
    let exponent := shortest.exponent
    let point := digits.length + exponent
    let body :=
      if -5 < point ∧ point ≤ 16 then
        Numeric.positional digits exponent ++ (if 0 ≤ exponent then ['.', '0'] else [])
      else
        digits.take 1 ++ (if digits.length = 1 then [] else '.' :: digits.drop 1)
          ++ 'e' :: (if 0 < point then ['+'] else []) ++ Numeric.intChars (point - 1)
    Numeric.signChars d.negative ++ body

end DraftLisp.Json

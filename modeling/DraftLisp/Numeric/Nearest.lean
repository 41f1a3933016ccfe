/-!
The float nearest to a quotient of two numbers, computed exactly. The bits of the floats from zero
to infinity, read as numbers, stand in the order of the floats; so the nearest float is found by
rounding the quotient to a number of units in its last place.
-/

namespace DraftLisp.Numeric

/-- The integer nearest to a quotient, the even one when two are equally near. -/
def roundQuotient (numerator denominator : Nat) : Nat :=
  let quotient := numerator / denominator
  let rest := 2 * (numerator % denominator)
  if denominator < rest ∨ (rest = denominator ∧ quotient % 2 = 1) then quotient + 1 else quotient

/-- The exponent of the leading binary digit of a positive quotient: `2 ^ lead` is at most the
quotient and `2 ^ (lead + 1)` exceeds it. -/
def leadingExponent (numerator denominator : Nat) : Int :=
  let guess : Int := (numerator.log2 : Int) - denominator.log2
  if denominator * Nat.pow 2 guess.toNat ≤ numerator * Nat.pow 2 (-guess).toNat then guess
  else guess - 1

/-- The first bit above the fraction of a float: `2 ^ 52`. A float of the usual size has a leading
digit of this weight that its bits do not show. -/
def hiddenBit : Nat := 0x10000000000000

/-- The bits of infinity, which are the greatest that order floats. -/
def infinityBits : Nat := 2047 * hiddenBit

/-- The bits of the float nearest to a quotient. A float has 53 binary digits, but none below the
place of `2 ^ -1074`. -/
def nearestBits (numerator denominator : Nat) : Nat :=
  if numerator = 0 then 0
  else
    let unit := max (leadingExponent numerator denominator - 52) (-1074)
    let count :=
      roundQuotient (numerator * Nat.pow 2 (-unit).toNat) (denominator * Nat.pow 2 unit.toNat)
    min ((unit + 1074).toNat * hiddenBit + count) infinityBits

def nearest (numerator denominator : Nat) : Float :=
  Float.ofBits (nearestBits numerator denominator).toUInt64

def infinity : Float := 1.0 / 0.0

def notANumber : Float := 0.0 / 0.0

def withSign (negative : Bool) (magnitude : Float) : Float :=
  if negative then -magnitude else magnitude

def ofNat (n : Nat) : Float := nearest n 1

def ofInt (n : Int) : Float := withSign (decide (n < 0)) (ofNat n.natAbs)

theorem roundQuotient_mul {denominator : Nat} (h : 0 < denominator) (n : Nat) :
    roundQuotient (n * denominator) denominator = n := by
  have hdiv : n * denominator / denominator = n := Nat.mul_div_cancel n h
  have hmod : n * denominator % denominator = 0 := Nat.mul_mod_left n denominator
  simp only [roundQuotient, hdiv, hmod]
  split
  · omega
  · rfl

end DraftLisp.Numeric

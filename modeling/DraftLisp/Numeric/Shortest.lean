import DraftLisp.Numeric.Decimal
import DraftLisp.Numeric.Dyadic

/-!
The shortest numeral of a float: the fewest digits that read back as the same float, and of those
the numeral nearest to its exact value. Where two are equally near, the text that is written decides
between them: the texts of this language take the greater magnitude, JSON takes the even digit.
-/

namespace DraftLisp.Numeric

/-- The position of the leading digit: the least `p` with `numerator / denominator < 10 ^ p`. -/
def decade (numerator denominator : Nat) : Int :=
  if denominator ≤ numerator then digitCount (numerator / denominator)
  else
    let zeros := digitCount (denominator / numerator)
    if denominator ≤ numerator * Nat.pow 10 (zeros - 1) then 2 - (zeros : Int)
    else 1 - (zeros : Int)

/-- Which of two equally near numerals is taken: the one of greater magnitude, or the one whose
last digit is even. -/
inductive Tie where
  | away
  | toEven
  deriving DecidableEq, Repr

/-- Whether a quotient between `quotient` and `quotient + 1` goes to the lower neighbour; `twice` is
double its remainder. -/
def Tie.goesBelow (tie : Tie) (quotient twice denominator : Nat) : Bool :=
  match tie with
  | .away => twice < denominator
  | .toEven => twice < denominator || (twice = denominator && quotient % 2 = 0)

namespace Shortest

/-- The numeral on the grid of step `10 ^ scale` that reads back as `x`: a neighbour of the exact
value, the nearer one when both do, and the one that `tie` says when they are equally near. -/
def onGrid? (tie : Tie) (x : Float) (numerator denominator : Nat) (scale : Int) : Option Decimal :=
  let scaledNumerator := numerator * Nat.pow 10 (-scale).toNat
  let scaledDenominator := denominator * Nat.pow 10 scale.toNat
  let quotient := scaledNumerator / scaledDenominator
  let below := Decimal.ofDigits false (digitChars quotient) scale
  let above := Decimal.ofDigits false (digitChars (quotient + 1)) scale
  match below.toFloat == x, above.toFloat == x with
  | true, true =>
    let twice := 2 * (scaledNumerator % scaledDenominator)
    if tie.goesBelow quotient twice scaledDenominator then some below else some above
  | true, false => some below
  | false, true => some above
  | false, false => none

def exact (d : Dyadic) : Decimal :=
  if 0 ≤ d.exponent then .ofDigits false (digitChars d.numerator) 0
  else .ofDigits false (digitChars (d.mantissa * Nat.pow 5 d.exponent.natAbs)) d.exponent

/-- The shortest numeral of the magnitude of a finite float. Seventeen digits always suffice. -/
def magnitude (tie : Tie) (d : Dyadic) (x : Float) : Decimal :=
  if d.mantissa = 0 then ⟨false, 0, 0⟩
  else
    let top := decade d.numerator d.denominator
    ((List.range 17).findSome? fun (n : Nat) =>
      onGrid? tie x.abs d.numerator d.denominator (top - (n + 1))).getD (exact d)

end Shortest

/-- Digits with a point: no exponent, no zeros beyond those that place the digits. -/
def positional (digits : List Char) (exponent : Int) : List Char :=
  let point := digits.length + exponent
  if 0 ≤ exponent then digits ++ List.replicate exponent.toNat '0'
  else if 0 < point then digits.take point.toNat ++ '.' :: digits.drop point.toNat
  else '0' :: '.' :: (List.replicate (-point).toNat '0' ++ digits)

def signChars (negative : Bool) : List Char := if negative then ['-'] else []

def wordChars (x : Float) : List Char :=
  if x.isNaN then "NaN".toList else if x < 0 then "-inf".toList else "inf".toList

/-- The shortest text of a float, without an exponent. Of two equally near numerals the one of
greater magnitude is written. -/
def plainChars (x : Float) : List Char :=
  match Dyadic.ofFloat? x with
  | none => wordChars x
  | some d =>
    let shortest := Shortest.magnitude .away d x
    signChars d.negative ++ positional (digitChars shortest.digits) shortest.exponent

def plainText (x : Float) : String := String.ofList (plainChars x)

def intChars (n : Int) : List Char :=
  signChars (decide (n < 0)) ++ digitChars n.natAbs

def intText (n : Int) : String := String.ofList (intChars n)

end DraftLisp.Numeric

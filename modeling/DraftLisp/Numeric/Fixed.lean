import DraftLisp.Numeric.Shortest

namespace DraftLisp.Numeric

def padZeros (width : Nat) (digits : List Char) : List Char :=
  List.replicate (width - digits.length) '0' ++ digits

/-- Sets a point before the last `places` digits, if there are any. -/
def pointBefore (places : Nat) (digits : List Char) : List Char :=
  if places = 0 then digits
  else
    let whole := digits.length - places
    digits.take whole ++ '.' :: digits.drop whole

/-- Decimal text, rounded from the exact value; a half goes to the even neighbour. -/
def fixedChars (places : Nat) (x : Float) : List Char :=
  match Dyadic.ofFloat? x with
  | none => wordChars x
  | some d =>
    let scaled := roundQuotient (d.numerator * Nat.pow 10 places) d.denominator
    signChars d.negative ++ pointBefore places (padZeros (places + 1) (digitChars scaled))

/-- The leading digits of a quotient, `places` after the first, and the power of ten of the first
of them. -/
def leadingDigits (places numerator denominator : Nat) : List Char × Int :=
  if numerator = 0 then (List.replicate (places + 1) '0', 0)
  else
    let top := decade numerator denominator
    let scale := top - 1 - places
    let scaledNumerator := numerator * Nat.pow 10 (-scale).toNat
    let scaledDenominator := denominator * Nat.pow 10 scale.toNat
    let digits := digitChars (roundQuotient scaledNumerator scaledDenominator)
    (digits.take (places + 1), top - 1 + (digits.length - (places + 1)))

/-- Scientific text: one digit, `places` digits after the point, and the exponent after an `E`. -/
def scientificChars (places : Nat) (x : Float) : List Char :=
  match Dyadic.ofFloat? x with
  | none => wordChars x
  | some d =>
    let (digits, exponent) := leadingDigits places d.numerator d.denominator
    signChars d.negative ++ pointBefore places digits ++ 'E' :: intChars exponent

end DraftLisp.Numeric

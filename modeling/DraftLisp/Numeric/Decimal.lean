import DraftLisp.Numeric.Nearest

namespace DraftLisp.Numeric

/-- The value `digits * 10 ^ exponent`, negated when `negative` holds. -/
structure Decimal where
  negative : Bool
  digits : Nat
  exponent : Int
  deriving DecidableEq, Repr

def digitChars (n : Nat) : List Char := Nat.toDigits 10 n

def digitCount (n : Nat) : Nat := (digitChars n).length

def digitsValue (digits : List Char) : Nat :=
  digits.foldl (fun value c => value * 10 + (c.toNat - '0'.toNat)) 0

/-- The value of a run of digits, or the limit if the value exceeds it. Long runs cost no more than
their length. -/
def digitsValueUpTo (limit : Nat) (digits : List Char) : Nat :=
  digits.foldl (fun value c => min limit (value * 10 + (c.toNat - '0'.toNat))) 0

theorem digitsValueUpTo_eq_min (limit : Nat) (digits : List Char) :
    digitsValueUpTo limit digits = min limit (digitsValue digits) := by
  have hfold : ∀ value, digits.foldl
      (fun value c => min limit (value * 10 + (c.toNat - '0'.toNat))) (min limit value) =
      min limit (digits.foldl (fun value c => value * 10 + (c.toNat - '0'.toNat)) value) := by
    induction digits with
    | nil => simp
    | cons c digits ih =>
      intro value
      rw [List.foldl_cons, List.foldl_cons, ← ih]
      congr 1
      omega
  simpa [digitsValueUpTo, digitsValue] using hfold 0

namespace Decimal

/-- The numeral of a run of digits of which the last counts `10 ^ exponent`. Zeros at the end go
into the exponent, so that numerals of one value and sign are equal. -/
def ofDigits (negative : Bool) (digits : List Char) (exponent : Int) : Decimal :=
  let kept := (digits.reverse.dropWhile (· = '0')).reverse
  if digitsValue kept = 0 then ⟨negative, 0, 0⟩
  else ⟨negative, digitsValue kept, exponent + (digits.length - kept.length : Nat)⟩

/-- A run of digits that is longer than this is shortened. -/
def lengthLimit : Nat := 1200

/-- The numeral of a run of digits of any length, as far as the nearest float depends on it. The
middle between two neighbouring floats has fewer digits than the limit, so of the digits beyond it
all zeros count as nothing and all else counts as a single one. -/
def ofRun (negative : Bool) (digits : List Char) (exponent : Int) : Decimal :=
  if digits.length ≤ lengthLimit then ofDigits negative digits exponent
  else
    let significant := digits.dropWhile (· = '0')
    let left := significant.drop lengthLimit
    let last := if left.all (· = '0') then [] else ['1']
    ofDigits negative (significant.take lengthLimit ++ last)
      (exponent + left.length - last.length)

/-- The nearest float to the magnitude. Magnitudes that no float comes near are settled by their
decade, so that a huge exponent costs nothing. -/
def magnitude (d : Decimal) : Float :=
  let decade := d.exponent + digitCount d.digits
  if d.digits = 0 then 0.0
  else if 310 < decade then infinity
  else if decade < -330 then 0.0
  else nearest (d.digits * Nat.pow 10 d.exponent.toNat) (Nat.pow 10 (-d.exponent).toNat)

def toFloat (d : Decimal) : Float := withSign d.negative d.magnitude

end Decimal

/-- Takes a leading sign off; the flag tells whether it was a minus. -/
def splitSign : List Char → Bool × List Char
  | '-' :: rest => (true, rest)
  | '+' :: rest => (false, rest)
  | chars => (false, chars)

/-- The value of the digits of an exponent; once it exceeds 16 bits no digit is added. -/
def exponentValue (digits : List Char) : Nat :=
  digits.foldl (fun value c =>
    if value < 0x10000 then value * 10 + (c.toNat - '0'.toNat) else value) 0

/-- The exponent after a mantissa: nothing, or `e`, an optional sign and at least one digit. -/
def readExponent? : List Char → Option Int
  | [] => some 0
  | mark :: rest =>
    let (negative, digits) := splitSign rest
    if (mark = 'e' ∨ mark = 'E') ∧ digits ≠ [] ∧ digits.all Char.isDigit then
      some (if negative then -(exponentValue digits : Int) else exponentValue digits)
    else none

/-- Takes the point and the digits after it, if the text goes on with a point. -/
def splitFraction : List Char → List Char × List Char
  | '.' :: rest => rest.span Char.isDigit
  | chars => ([], chars)

/-- Reads a whole text as a numeral: an optional sign, digits with at most one point among or beside
them, and an optional exponent. -/
def readDecimal? (chars : List Char) : Option Decimal :=
  let (negative, unsigned) := splitSign chars
  let (whole, afterWhole) := unsigned.span Char.isDigit
  let (fraction, afterFraction) := splitFraction afterWhole
  if whole.isEmpty && fraction.isEmpty then none
  else
    (readExponent? afterFraction).map fun exponent =>
      .ofRun negative (whole ++ fraction) (exponent - fraction.length)

/-- The words for infinity and for no number, in any case. -/
def readWord? (chars : List Char) : Option Float :=
  let (negative, word) := splitSign chars
  match String.ofList (word.map Char.toLower) with
  | "inf" | "infinity" => some (if negative then -infinity else infinity)
  | "nan" => some notANumber
  | _ => none

def readFloat? (chars : List Char) : Option Float :=
  match readDecimal? chars with
  | some d => some d.toFloat
  | none => readWord? chars

/-- Reads a whole text as a float that is neither infinite nor no number. -/
def readFinite? (chars : List Char) : Option Float :=
  (readFloat? chars).filter Float.isFinite

end DraftLisp.Numeric

import DraftLisp.Builtin.Basic

namespace DraftLisp.Builtin

open Numeric

namespace Arithmetic

/-- The sum; of no numbers it is the negative zero, which adds nothing to any number. -/
def sum (xs : List Float) : Float := xs.foldl (· + ·) (-0.0)

/-- One number is negated; from the first of several the others are taken away. -/
def difference : List Float → Float
  | [] => 0.0
  | [x] => -x
  | x :: rest => rest.foldl (· - ·) x

def product : List Float → Float
  | [] => 0.0
  | x :: rest => rest.foldl (· * ·) x

def divideAll (divide : Float → Float → Float) (first : Float) (rest : List Float) :
    Except Error Float :=
  rest.foldlM (fun result divisor =>
    if divisor == 0.0 then .error (.eval .divideByZero) else .ok (divide result divisor)) first

/-- The greater number; what is not a number loses, and of equals (zeros of either sign) the later
one is taken. -/
def greater (x y : Float) : Float :=
  if y.isNaN then x else if y < x then x else y

/-- The smaller number; what is not a number loses, and of equals (zeros of either sign) the later
one is taken. -/
def smaller (x y : Float) : Float :=
  if y.isNaN then x else if x < y then x else y

def squareRoot (x : Float) : Except Error Value :=
  if x < 0.0 then .error (.eval (.undefinedFor x)) else number x.sqrt

def logarithm (x : Float) : Except Error Value :=
  if x ≤ 0.0 then .error (.eval (.undefinedFor x)) else number x.log

def arcTangent (y : Float) (rest : List Float) : Float :=
  match rest with
  | x :: _ => Float.atan2 y x
  | [] => y.atan

/-- The magnitude of a 64-bit integer. The least of them has none and is left as it is: so the
wrap-around of a build without overflow checks has it. A build with overflow checks panics there. -/
def magnitude (n : Int) : Int := if n = -0x8000000000000000 then n else n.natAbs

def divisor (a b : Int) : Int :=
  if _h : b = 0 then a else divisor b (a.tmod b)
termination_by b.natAbs
decreasing_by
  rw [Int.natAbs_tmod]
  exact Nat.mod_lt _ (by omega)

/-- Whole numbers only; they are taken as 64-bit integers. -/
def commonDivisor (a b : Float) : Except Error Value :=
  if isWhole a && isWhole b then
    number (ofInt (divisor (magnitude (toInt64 a)) (magnitude (toInt64 b))))
  else .error (.type (.notIntegers "gcd"))

def word (x : Float) : UInt64 := UInt64.ofInt (toInt64 x)

def signedValue (bits : UInt64) : Int := Int.bmod bits.toNat 0x10000000000000000

def bitAnd : List Float → Float
  | [] => 0.0
  | x :: rest => ofInt (signedValue (rest.foldl (fun bits y => bits &&& word y) (word x)))

def bitOr (xs : List Float) : Float :=
  ofInt (signedValue (xs.foldl (fun bits x => bits ||| word x) 0))

end Arithmetic

open Arithmetic
open Value (expectNumber)

def arithmetic : List Builtin :=
  [function "+" .any (variadic numbers fun xs => number (sum xs)),
   function "-" .any (variadic numbers fun xs => number (difference xs)),
   function "*" .any (variadic numbers fun xs => number (product xs)),
   function "/" (.atLeast 1) (unaryRest expectNumber numbers fun x rest => do
     number (← divideAll (· / ·) x rest)),
   function "1+" (.exactly 1) (unary expectNumber fun x => number (x + 1.0)),
   function "1-" (.exactly 1) (unary expectNumber fun x => number (x - 1.0)),
   function "ABS" (.exactly 1) (unary expectNumber fun x => number x.abs),
   function "SQRT" (.exactly 1) (unary expectNumber squareRoot),
   function "EXPT" (.exactly 2) (binary expectNumber expectNumber fun x y => number (x.pow y)),
   function "EXP" (.exactly 1) (unary expectNumber fun x => number x.exp),
   function "LOG" (.exactly 1) (unary expectNumber logarithm),
   function "SIN" (.exactly 1) (unary expectNumber fun x => number x.sin),
   function "COS" (.exactly 1) (unary expectNumber fun x => number x.cos),
   function "ATAN" (.between 1 2) (unaryRest expectNumber numbers fun y rest =>
     number (arcTangent y rest)),
   function "REM" (.atLeast 1) (unaryRest expectNumber numbers fun x rest => do
     number (← divideAll remainder x rest)),
   function "FIX" (.exactly 1) (unary expectNumber fun x => number (trunc x)),
   function "FLOAT" (.exactly 1) (unary expectNumber number),
   function "MAX" (.atLeast 1) (unaryRest expectNumber numbers fun x rest =>
     number (rest.foldl greater x)),
   function "MIN" (.atLeast 1) (unaryRest expectNumber numbers fun x rest =>
     number (rest.foldl smaller x)),
   function "GCD" (.exactly 2) (binary expectNumber expectNumber commonDivisor),
   function "LOGAND" .any (variadic numbers fun xs => number (bitAnd xs)),
   function "LOGIOR" .any (variadic numbers fun xs => number (bitOr xs))]

end DraftLisp.Builtin

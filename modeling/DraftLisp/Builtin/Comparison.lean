import DraftLisp.Builtin.Basic

namespace DraftLisp.Builtin

namespace Comparison

/-- Numbers have their order and strings that of their characters; a comparison with no number
fails. -/
def order (a b : Value) : Except Error Ordering :=
  match a, b with
  | .number x, .number y =>
    if x < y then .ok .lt
    else if x == y then .ok .eq
    else if y < x then .ok .gt
    else .error (.eval (.unordered a b))
  | .string s, .string t => .ok (compare s t)
  | _, _ => .error (.type (.incomparable a b))

/-- Whether each value stands to the next one as the test wants; the first pair that does not ends
the comparison. -/
def chain (test : Ordering → Bool) : Value → List Value → Except Error Bool
  | _, [] => .ok true
  | first, next :: rest => do
    if test (← order first next) then chain test next rest else return false

def comparison (name : String) (test : Ordering → Bool) : Builtin :=
  function name (.atLeast 1) (unaryRest anyValue anyValues fun first rest => do
    flag (← chain test first rest))

mutual

def equalWithin (fuzz : Float) : Value → Value → Bool
  | .number x, .number y => (x - y).abs ≤ fuzz
  | .list xs, .list ys => equalItems fuzz xs ys
  | a, b => a == b

def equalItems (fuzz : Float) : List Value → List Value → Bool
  | [], [] => true
  | x :: xs, y :: ys => equalWithin fuzz x y && equalItems fuzz xs ys
  | _, _ => false

end

end Comparison

open Comparison

def comparisons : List Builtin :=
  [comparison "=" (·.isEq),
   comparison "/=" (·.isNe),
   comparison "<" (·.isLT),
   comparison ">" (·.isGT),
   comparison "<=" (·.isLE),
   comparison ">=" (·.isGE),
   function "EQ" (.exactly 2) (binary anyValue anyValue fun a b => flag (a == b)),
   function "EQUAL" (.between 2 3) (binaryRest anyValue anyValue numbers fun a b fuzz =>
     flag (equalWithin (fuzz.headD 0.0) a b))]

end DraftLisp.Builtin

import DraftLisp.Builtin.Basic

namespace DraftLisp.Builtin

open Value (expectNumber isNil)

namespace Predicates

/-- Whether a value is no list; nil is none. -/
def isAtom : Value → Bool
  | .list _ => false
  | _ => true

def typeSymbol (value : Value) : Value := if value.isNil then .nil else .symbol value.typeName

end Predicates

open Predicates

def predicate (name : String) (test : Value → Bool) : Builtin :=
  function name (.exactly 1) (unary anyValue fun value => flag (test value))

def predicates : List Builtin :=
  [predicate "NOT" isNil,
   predicate "NULL" isNil,
   predicate "ATOM" isAtom,
   predicate "LISTP" (·.items?.isSome),
   predicate "NUMBERP" (·.number?.isSome),
   function "MINUSP" (.exactly 1) (unary expectNumber fun x => flag (x < 0.0)),
   function "ZEROP" (.exactly 1) (unary expectNumber fun x => flag (x == 0.0)),
   function "TYPE" (.exactly 1) (unary anyValue fun value => .ok (typeSymbol value))]

end DraftLisp.Builtin

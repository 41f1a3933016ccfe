import DraftLisp.Error

namespace DraftLisp

inductive Arity where
  | exactly (count : Nat)
  | atLeast (count : Nat)
  /-- Both bounds are included. -/
  | between (least most : Nat)
  | any
  deriving Repr, DecidableEq

namespace Arity

def broken? : Arity → Nat → Option Nat
  | .exactly count, got => if got = count then none else some count
  | .atLeast count, got => if got < count then some count else none
  | .between least most, got =>
    if got < least then some least else if most < got then some most else none
  | .any, _ => none

def accepts (arity : Arity) (got : Nat) : Bool := (arity.broken? got).isNone

def check (arity : Arity) (got : Nat) : Except Error Unit :=
  match arity.broken? got with
  | some bound => .error (.arity bound got none)
  | none => .ok ()

end Arity

end DraftLisp

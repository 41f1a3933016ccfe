import DraftLisp.Arity
import DraftLisp.Drawing
import DraftLisp.Input
import DraftLisp.Value.Expect

namespace DraftLisp

/-- Why a run ends without a value. -/
inductive Halt where
  | error (error : Error)
  /-- A text was asked for with more digits than a text may have. -/
  | overlong
  /-- A loop used up all the rounds that one loop may take. -/
  | endless

def namingHalt (operator : String) : Except Halt α → Except Halt α
  | .error (.error error) => .error (.error (error.named operator))
  | result => result

/-- A change of the drawing; what it has done before an error is kept. -/
abbrev Edit := ExceptT Error (StateM Drawing)

theorem edit_bind_apply (step : Edit α) (next : α → Edit β) (drawing : Drawing) :
    (step >>= next) drawing =
      match step drawing with
      | (.ok result, changed) => next result changed
      | (.error error, changed) => (.error error, changed) := by
  change (let (outcome, changed) := step drawing; ExceptT.bindCont next outcome changed) = _
  rcases step drawing with ⟨_ | _, changed⟩ <;> rfl

def namingEdit (operator : String) (step : Edit α) : Edit α := fun drawing =>
  match step drawing with
  | (.error error, changed) => (.error (error.named operator), changed)
  | result => result

/-- What an operator does that needs input: it has its value at once or sends a request. -/
inductive Demand where
  | answered (value : Value)
  | asked (request : Request)

/-- The operators that call back into the evaluator. -/
inductive Control where
  | mapcar
  | apply
  | eval
  deriving Repr, DecidableEq

inductive Action where
  | pure (run : List Value → Except Halt Value)
  | edit (run : List Value → Edit Value)
  | input (ask : List Value → Drawing → Except Error Demand)
  | control (operator : Control)

structure Builtin where
  name : String
  arity : Arity
  action : Action

namespace Builtin

abbrev Reader (α : Type) := Value → Except Error α

abbrev RestReader (α : Type) := List Value → Except Error α

def anyValue : Reader Value := .ok

def anyValues : RestReader (List Value) := .ok

def numbers : RestReader (List Float) := fun values => values.mapM Value.expectNumber

def strings : RestReader (List String) := fun values => values.mapM Value.expectString

def halting (result : Except Error α) : Except Halt α := result.mapError .error

def miscounted (expected : Nat) (operands : List Value) : Except Error α :=
  .error (.arity expected operands.length none)

def unary (first : Reader α) (run : α → Except Error ρ) (operands : List Value) :
    Except Error ρ :=
  match operands with
  | [a] => do run (← first a)
  | _ => miscounted 1 operands

def binary (first : Reader α) (second : Reader β) (run : α → β → Except Error ρ)
    (operands : List Value) : Except Error ρ :=
  match operands with
  | [a, b] => do run (← first a) (← second b)
  | _ => miscounted 2 operands

def ternary (first : Reader α) (second : Reader β) (third : Reader γ)
    (run : α → β → γ → Except Error ρ) (operands : List Value) : Except Error ρ :=
  match operands with
  | [a, b, c] => do run (← first a) (← second b) (← third c)
  | _ => miscounted 3 operands

def variadic (rest : RestReader α) (run : α → Except Error ρ) (operands : List Value) :
    Except Error ρ := do
  run (← rest operands)

def unaryRest (first : Reader α) (rest : RestReader β) (run : α → β → Except Error ρ)
    (operands : List Value) : Except Error ρ :=
  match operands with
  | a :: others => do run (← first a) (← rest others)
  | _ => miscounted 1 operands

def binaryRest (first : Reader α) (second : Reader β) (rest : RestReader γ)
    (run : α → β → γ → Except Error ρ) (operands : List Value) : Except Error ρ :=
  match operands with
  | a :: b :: others => do run (← first a) (← second b) (← rest others)
  | _ => miscounted 2 operands

def function (name : String) (arity : Arity) (run : List Value → Except Error Value) : Builtin :=
  ⟨name, arity, .pure fun operands => halting (run operands)⟩

/-- A position counted from zero; numbers below zero and no number are none. -/
def position? (index : Float) : Option Nat :=
  if 0.0 ≤ index then some (Numeric.toNat64 index) else none

def number (x : Float) : Except Error Value := .ok (.number x)

def flag (b : Bool) : Except Error Value := .ok (.ofBool b)

def string (text : String) : Except Error Value := .ok (.string text)

def count (n : Nat) : Except Error Value := .ok (.ofNat n)

end Builtin

end DraftLisp

import DraftLisp.Bindings
import DraftLisp.Drawing
import DraftLisp.Value

namespace DraftLisp

structure Function where
  name : String
  params : List String
  body : List Form
  deriving Inhabited

structure Session where
  globals : Bindings Value
  functions : Bindings Function
  drawing : Drawing
  nextClosure : Nat
  deriving Inhabited

def Session.empty : Session := ⟨[], [], .empty, 0⟩

/-- A session with the variables of the form or call that is being evaluated. These hide global
variables of the same name. -/
structure State extends Session where
  frame : Bindings Value
  deriving Inhabited

namespace State

def binding? (state : State) (name : String) : Option Value :=
  state.frame.get? name <|> state.globals.get? name

/-- The names that always mean the same. -/
def constant? : String → Option Value
  | "T" => some .truth
  | "NIL" => some .nil
  | "PI" => some (.number 3.141592653589793)
  | _ => none

/-- The value of a symbol; an unknown one is nil. -/
def lookup (state : State) (name : String) : Value :=
  .ofOption (constant? name <|> state.binding? name)

def snapshot (state : State) : Bindings Value := state.frame.overlay state.globals

end State

end DraftLisp

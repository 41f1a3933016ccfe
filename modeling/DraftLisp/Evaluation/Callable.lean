import DraftLisp.Builtin.Registry
import DraftLisp.Evaluation.Run

namespace DraftLisp

inductive Callable where
  | builtin (operator : Builtin)
  | closure (params : List String) (body : List Form) (captured : Bindings Value)
  | function (function : Function)

namespace Callable

/-- Parameter names up to a `/`, behind which names of local variables stand. -/
def paramNames (owner : String) : List Form → Except Error (List String)
  | [] => .ok []
  | .symbol name :: rest =>
    if name = "/" then .ok [] else do return name :: (← paramNames owner rest)
  | form :: _ => .error (.syntactic (.notParameter owner form))

/-- The parameter names of a parameter list; `NIL` is the empty one. -/
def params (owner : String) : Form → Except Error (List String)
  | .list items => paramNames owner items
  | .symbol "NIL" => .ok []
  | form => .error (.syntactic (.notParameterList owner form))

/-- The meaning of a name as an operator: a builtin, a function value bound to the name, or a
function with that name. -/
def ofName? (state : State) (name : String) : Option Callable :=
  match Builtin.find? name with
  | some operator => some (.builtin operator)
  | none =>
    match state.binding? name with
    | some (.closure _ params body captured) => some (.closure params body captured)
    | _ => (state.functions.get? name).map .function

def ofName (state : State) (name : String) : Except Error Callable :=
  match ofName? state name with
  | some callable => .ok callable
  | none => .error (.unknownFunction name)

/-- A value as an operator: a function value, the name of an operator, or a list that starts with
`LAMBDA` and is read as code. -/
def ofValue (state : State) (value : Value) : Except Error Callable :=
  match value with
  | .closure _ params body captured => .ok (.closure params body captured)
  | .symbol name => ofName state name
  | .list (.symbol "LAMBDA" :: _) =>
    match value.form? with
    | some (.list (_ :: parameters :: body)) => do
      return .closure (← params "lambda" parameters) body state.snapshot
    | some (.list _) => .error (.syntactic (.noParameterList value))
    | _ => .error (.type (.notFunction value))
  | value => .error (.type (.notFunction value))

/-- Binds parameters to operands: missing operands are nil and extra ones are dropped. -/
def bindParams (frame : Bindings Value) : List String → List Value → Bindings Value
  | [], _ => frame
  | param :: params, [] => bindParams (frame.put param .nil) params []
  | param :: params, value :: values => bindParams (frame.put param value) params values

end Callable

end DraftLisp

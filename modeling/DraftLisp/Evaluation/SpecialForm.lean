import DraftLisp.Evaluation.Apply

namespace DraftLisp

inductive SpecialForm where
  | quote
  | function
  | setq
  | cond
  | conditional
  | whileLoop
  | repeatLoop
  | foreach
  | progn
  | defun
  | lambda
  | and
  | or
  deriving Repr, DecidableEq

namespace SpecialForm

def ofName? : String → Option SpecialForm
  | "QUOTE" => some .quote
  | "FUNCTION" => some .function
  | "SETQ" => some .setq
  | "IF" => some .conditional
  | "COND" => some .cond
  | "WHILE" => some .whileLoop
  | "REPEAT" => some .repeatLoop
  | "FOREACH" => some .foreach
  | "PROGN" => some .progn
  | "DEFUN" => some .defun
  | "LAMBDA" => some .lambda
  | "AND" => some .and
  | "OR" => some .or
  | _ => none

def arity : SpecialForm → Arity
  | .quote | .function => .exactly 1
  | .conditional => .between 2 3
  | .whileLoop | .repeatLoop | .lambda => .atLeast 1
  | .foreach | .defun => .atLeast 2
  | .setq | .cond | .progn | .and | .or => .any

/-- Makes a function value that keeps the variables as they are now. -/
def makeClosure (parameters : Form) (body : List Form) : Comp Value := do
  let params ← Comp.ofResult (Callable.params "lambda" parameters)
  fun state => .done (.ok (.closure state.nextClosure params body state.snapshot))
    { state with nextClosure := state.nextClosure + 1 }

/-- A list that starts with `LAMBDA` is evaluated, any other form is taken as data; a name stays a
name, also `NIL`. -/
def nameFunction (ev : Form → Comp Value) (form : Form) : Comp Value :=
  match form with
  | .symbol name => pure (.symbol name)
  | .list (.symbol "LAMBDA" :: _) => ev form
  | form => pure (.ofForm form)

/-- The variable that an assignment may write. -/
def assignable (form : Form) : Except Error String :=
  match form with
  | .symbol name =>
    if (State.constant? name).isSome then .error (.eval (.constant name)) else .ok name
  | form => .error (.syntactic (.notSymbol "setq" form))

/-- Assigns names and values pair by pair, always to global variables. -/
def assign (ev : Form → Comp Value) (last : Value) : List Form → Comp Value
  | target :: form :: rest => do
    let name ← Comp.ofResult (assignable target)
    let value ← ev form
    Comp.modify fun state => { state with globals := state.globals.put name value }
    assign ev value rest
  | _ => pure last

def assignPairs (ev : Form → Comp Value) (operands : List Form) : Comp Value :=
  match operands.getLast? with
  | some form =>
    if operands.length % 2 = 1 then .fail (.syntactic (.noValue form)) else assign ev .nil operands
  | none => pure .nil

/-- The body of the first clause whose test is true; a clause without a body gives its test. -/
def choose (ev : Form → Comp Value) : List Form → Comp Value
  | [] => pure .nil
  | .list [] :: rest => choose ev rest
  | .list (test :: body) :: rest => do
    let verdict ← ev test
    if verdict.isTruthy then evalBody ev verdict body else choose ev rest
  | form :: _ => .fail (.syntactic (.notClause form))

/-- Goes round while the test is true. A loop that takes more rounds than it may is given up. -/
def loopWhile (ev : Form → Comp Value) (test : Form) (body : List Form) (last : Value) :
    (rounds : Nat) → Comp Value
  | 0 => .halt .endless
  | rounds + 1 => do
    let verdict ← ev test
    if verdict.isTruthy then
      let value ← evalBody ev .nil body
      loopWhile ev test body value rounds
    else pure last

def loopTimes (ev : Form → Comp Value) (body : List Form) (last : Value) :
    (rounds : Nat) → Comp Value
  | 0 => pure last
  | rounds + 1 => do
    let value ← evalBody ev .nil body
    loopTimes ev body value rounds

/-- The loop variable is bound in the frame of the loop and stays bound after it. -/
def loopOver (ev : Form → Comp Value) (name : String) (body : List Form) (last : Value) :
    List Value → Comp Value
  | [] => pure last
  | item :: rest => do
    Comp.modify fun state => { state with frame := state.frame.put name item }
    let value ← evalBody ev .nil body
    loopOver ev name body value rest

def repeatBody (ev : Form → Comp Value) (count : Form) (body : List Form) : Comp Value := do
  let value ← ev count
  match value.number? with
  | none => .fail (.type (.operand "repeat" "number" value))
  | some times => loopTimes ev body .nil (Numeric.toInt64 times).toNat

def foreachItem (ev : Form → Comp Value) (target : Form) (list : Form) (body : List Form) :
    Comp Value := do
  match target with
  | .symbol name =>
    let value ← ev list
    match value.items? with
    | none => .fail (.type (.operand "foreach" "list" value))
    | some items => loopOver ev name body .nil items
  | form => .fail (.syntactic (.notSymbol "foreach" form))

/-- Names a function; an earlier one of that name is replaced. -/
def define (name parameters : Form) (body : List Form) : Comp Value := do
  match name with
  | .symbol name =>
    let params ← Comp.ofResult (Callable.params "defun" parameters)
    Comp.modify fun state =>
      { state with functions := state.functions.put name ⟨name, params, body⟩ }
    return .symbol name
  | form => .fail (.syntactic (.notFunctionName form))

def allTrue (ev : Form → Comp Value) : List Form → Comp Value
  | [] => pure .truth
  | form :: rest => do
    let value ← ev form
    if value.isTruthy then allTrue ev rest else pure .nil

def firstTrue (ev : Form → Comp Value) : List Form → Comp Value
  | [] => pure .nil
  | form :: rest => do
    let value ← ev form
    if value.isTruthy then pure value else firstTrue ev rest

/-- What a special form does with its operands; nothing when their number is wrong. -/
def action? (rounds : Nat) (ev : Form → Comp Value) (special : SpecialForm)
    (operands : List Form) : Option (Comp Value) :=
  match special, operands with
  | .quote, [form] => some (pure (.ofForm form))
  | .function, [form] => some (nameFunction ev form)
  | .setq, operands => some (assignPairs ev operands)
  | .conditional, [test, yes] => some do
    if (← ev test).isTruthy then ev yes else pure .nil
  | .conditional, [test, yes, no] => some do
    if (← ev test).isTruthy then ev yes else ev no
  | .cond, clauses => some (choose ev clauses)
  | .whileLoop, test :: body => some (loopWhile ev test body .nil rounds)
  | .repeatLoop, count :: body => some (repeatBody ev count body)
  | .foreach, target :: list :: body => some (foreachItem ev target list body)
  | .progn, body => some (evalBody ev .nil body)
  | .defun, name :: parameters :: body => some (define name parameters body)
  | .lambda, parameters :: body => some (makeClosure parameters body)
  | .and, operands => some (allTrue ev operands)
  | .or, operands => some (firstTrue ev operands)
  | _, _ => none

/-- A special form acts exactly when it has as many operands as it may have. -/
theorem isSome_action? (rounds : Nat) (ev : Form → Comp Value) (special : SpecialForm)
    (operands : List Form) :
    (special.action? rounds ev operands).isSome = special.arity.accepts operands.length := by
  rcases operands with _ | ⟨first, _ | ⟨second, _ | ⟨third, _ | ⟨fourth, rest⟩⟩⟩⟩ <;>
    cases special <;> simp only [action?, arity, Arity.accepts, Arity.broken?, List.length_cons,
      List.length_nil] <;> grind

end SpecialForm

end DraftLisp

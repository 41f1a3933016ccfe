import DraftLisp.Evaluation.SpecialForm

namespace DraftLisp

/-- Operands are evaluated before the operator is looked up. -/
def evalApplication (ev : Evaluator) (head : Form) (operands : List Form) : Comp Value := do
  let values ← Comp.mapAll (ev 0) operands
  let callable ← match head with
    | .symbol name => Comp.observe (Callable.ofName · name)
    | head => do
      let value ← ev 0 head
      Comp.observe (Callable.ofValue · value)
  let callable ← Comp.ofResult callable
  apply ev 1 callable values

/-- One step of evaluation; `ev level` evaluates forms that lie `level + 1` levels deeper. -/
def evalForm (rounds : Nat) (ev : Evaluator) (form : Form) : Comp Value :=
  match form with
  | .number value => pure (.number value)
  | .string text => pure (.string text)
  | .symbol name => Comp.observe (·.lookup name)
  | .list [] => pure .nil
  | .list (head :: operands) =>
    match head.symbol?.bind SpecialForm.ofName? with
    | none => evalApplication ev head operands
    | some special =>
      match special.action? rounds (ev 0) operands with
      | some action => action
      | none =>
        .fail (.syntactic (.operandCount (head.symbol?.getD "") operands.length form))

/-- Evaluates a form `level` levels below a place with room for `room` more levels. The limit on
the depth is only named in the error; `rounds` is how often one loop may go round. -/
def eval (rounds limit : Nat) : (room : Nat) → Evaluator
  | 0, _, _ => .fail (.eval (.depth limit))
  | room + 1, 0, form => evalForm rounds (eval rounds limit room) form
  | room + 1, level + 1, form => eval rounds limit room level form

/-- Evaluates top-level forms in order, each with no local variables. -/
def evalProgram (rounds limit : Nat) (forms : List Form) : Comp Value :=
  evalBody (fun form => .within [] (eval rounds limit limit 0 form)) .nil forms

end DraftLisp

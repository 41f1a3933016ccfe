import DraftLisp.Proofs.Evaluation.Application
import DraftLisp.Proofs.Evaluation.Composed
import DraftLisp.Proofs.Evaluation.Observed

namespace DraftLisp

variable {G : Guarantee} {loops : String → Prop}

namespace Comp

theorem Keeps.observe_bind {view : State → α} {next : α → Comp β}
    (h : ∀ state, Keeps G loops (next (view state))) : Keeps G loops (observe view >>= next) := by
  intro state
  rw [bind_apply]
  exact h state state

theorem keeps_input (hG : G.Closed) (ev : Evaluator) (level : Nat) {operator : Builtin}
    {ask : List Value → Drawing → Except Error Demand} {operands : List Value}
    (haction : operator.action = .input ask)
    (hcheck : operator.arity.check operands.length = .ok ()) :
    Keeps G loops (apply ev level (.builtin operator) operands) := by
  rw [apply_input hcheck haction]
  refine Keeps.observe_bind fun state => ?_
  split
  · exact keeps_pure hG _
  · exact keeps_request hG _
  · exact keeps_fail hG _

end Comp

def Guarantee.Closed.property (hG : G.Closed) : Comp.Property where
  holds loops _ comp := Comp.Keeps G loops comp
  pure _ _ value := Comp.keeps_pure hG value
  halt _ _ reason := Comp.keeps_halt hG reason
  observe_bind := Comp.Keeps.observe_bind
  bind h := h.bind hG
  within _ _ _ frame h := h.within hG frame
  loop value hname := Comp.keeps_modify fun state => hG.loop state value hname
  global loops name value := Comp.keeps_modify fun state => hG.global loops state name value
  named loops name function := Comp.keeps_modify fun state => hG.named loops state name function
  closure loops _ _ state := hG.closure loops state
  edit _ _ _ operands hmem haction := Comp.keeps_edit hG hmem haction operands
  input _ ev level _ _ _ _ := Comp.keeps_input hG ev level

theorem SpecialForm.keeps_assignPairs (hG : G.Closed) {ev : Form → Comp Value}
    {operands : List Form} (h : ∀ form ∈ operands, Comp.Keeps G loops (ev form)) :
    Comp.Keeps G loops (assignPairs ev operands) :=
  hG.property.assignPairs h

theorem keeps_apply (hG : G.Closed) {ev : Evaluator}
    (hev : ∀ level form, Comp.Keeps G (fun _ => True) (ev level form)) (level : Nat)
    {callable : Callable} (hregistered : callable.Registered) (operands : List Value) :
    Comp.Keeps G loops (apply ev level callable operands) :=
  hG.property.apply hev level hregistered operands

/-- The evaluation of a form keeps every guarantee that the primitive changes respect. -/
theorem keeps_eval (hG : G.Closed) (rounds limit room level : Nat) {form : Form}
    (hform : form.LoopsIn loops) : Comp.Keeps G loops (eval rounds limit room level form) :=
  hG.property.eval rounds limit room level hform

end DraftLisp

import Mathlib.Data.List.Nodup
import DraftLisp.Interpreter
import DraftLisp.Proofs.Evaluation.Blamed
import DraftLisp.Proofs.Execution.Responses

namespace DraftLisp

/-- A user does not answer with an error about a number of operands. -/
theorem Response.counted_settlement (response : Response) (kind : InputKind) :
    Builtin.Counted (response.settlement kind) := by
  cases response with
  | answer raw => exact .ok _
  | cancel => exact .ok _
  | displaced => exact .error rfl

/-- An evaluation that has ended with an error. -/
def Standing.failed (error : Error) (after : State) : Standing α :=
  .ended (.error (.error error)) after

namespace Run.Replaces

variable {R : Error → Error → Prop} {first second : Run α}

theorem answered (h : first.Replaces R second) (responses : List Response) :
    (first.answered responses).Replaces R (second.answered responses) := by
  induction responses generalizing first second with
  | nil => exact h
  | cons response rest ih =>
      cases h with
      | same state hcounted =>
          rw [answered_done]
          exact .same state hcounted
      | replaced state h =>
          rw [answered_done, answered_done]
          exact .replaced state h
      | waiting request state h => exact ih (h _ (response.counted_settlement request.kind))

end Run.Replaces

namespace Builtin

theorem nodup_lower_names : (all.map fun operator => Text.lower operator.name).Nodup := by
  set_option maxRecDepth 4000 in
  decide +kernel

/-- The name in an error tells which operator it is about. -/
theorem eq_of_lower_name {first second : Builtin} (hfirst : first ∈ all) (hsecond : second ∈ all)
    (h : Text.lower first.name = Text.lower second.name) : first = second :=
  List.inj_on_of_nodup_map nodup_lower_names hfirst hsecond h

def callsBack (operator : Builtin) : Bool :=
  match operator.action with
  | .control _ => true
  | _ => false

theorem filter_callsBack : all.filter callsBack = controls := rfl

theorem action_ne_control {operator : Builtin} (h : operator ∈ all)
    (hname : operator.name ∉ ["MAPCAR", "APPLY", "EVAL"]) (control : Control) :
    operator.action ≠ .control control := by
  intro haction
  have hcontrol : operator ∈ controls := by
    rw [← filter_callsBack, List.mem_filter]
    exact ⟨h, by rw [callsBack, haction]⟩
  have hmem : operator.name ∈ controls.map (·.name) := List.mem_map_of_mem hcontrol
  exact hname hmem

end Builtin

theorem Blame.Replaced.eq_of_call {blame : Blame} {error other : Error} {operator : Builtin}
    {bound got : Nat} (h : blame.Replaced error other) (hmem : operator ∈ Builtin.all)
    (herror : error = .arity bound got (some (Text.lower operator.name))) :
    other = (blame operator (.arity bound got none)).named operator.name := by
  cases h with
  | call hcalled _ =>
      simp only [Error.arity.injEq, Option.some.injEq] at herror
      obtain ⟨rfl, rfl, hlower⟩ := herror
      rw [Builtin.eq_of_lower_name hcalled hmem hlower]

namespace Comp

/-- Where a computation stands behind some responses. -/
def standing (comp : Comp α) (state : State) (responses : List Response) : Standing α :=
  ((comp state).answered responses).standing

theorem Replaces.standing {R : Error → Error → Prop} {first second : Comp α}
    (h : Replaces R first second) (state : State) (responses : List Response) :
    (second.standing state responses = first.standing state responses ∧
      ∀ error after, first.standing state responses = .failed error after →
        error.isArity = false) ∨
    ∃ error other after, R error other ∧
      first.standing state responses = .failed error after ∧
      second.standing state responses = .failed other after := by
  unfold Comp.standing
  have hanswered := (h state).answered responses
  generalize (first state).answered responses = run at hanswered ⊢
  generalize (second state).answered responses = run' at hanswered ⊢
  cases hanswered with
  | same state hcounted =>
      refine .inl ⟨rfl, fun error after hstanding => ?_⟩
      cases hstanding
      exact hcounted error rfl
  | @replaced error other state h => exact .inr ⟨error, other, state, h, rfl, rfl⟩
  | waiting request state h => exact .inl ⟨rfl, nofun⟩

theorem standing_fail (error : Error) (state : State) (responses : List Response) :
    (fail error : Comp α).standing state responses = .failed error state :=
  congrArg Run.standing (Run.answered_done _ _ _)

/-- What an evaluation has ended with, compared with the evaluations that put another error in the
place of one about a number of operands. -/
inductive Blamed (plain : Comp Value) (blaming : Blame → Comp Value) (state : State)
    (responses : List Response) : Prop
  /-- It is no error about a number of operands, and no error is put in its place. -/
  | nothing :
    (∀ error after, plain.standing state responses = .failed error after →
      error.isArity = false) →
    (∀ blame, (blaming blame).standing state responses = plain.standing state responses) →
      Blamed plain blaming state responses
  /-- It is the error of a call of an operator with a number of operands outside its arity. -/
  | call {operator : Builtin} {bound got : Nat} (after : State) : operator ∈ Builtin.all →
    operator.arity.Violates bound got →
    plain.standing state responses =
      .failed (.arity bound got (some (Text.lower operator.name))) after →
    (∀ blame, (blaming blame).standing state responses =
      .failed ((blame operator (.arity bound got none)).named operator.name) after) →
      Blamed plain blaming state responses

/-- A computation and how it goes when another error is put in the place of one about a number of
operands. -/
structure Blames (plain : Comp Value) (blaming : Blame → Comp Value) : Prop where
  blamed : ∀ state responses, plain.Blamed blaming state responses
  /-- That every call names itself in the errors that leave it makes no difference. -/
  named : ∀ state responses,
    (blaming fun _ error => error).standing state responses = plain.standing state responses

section Blames

variable {plain : Comp Value} {blaming : Blame → Comp Value}

theorem Blamed.named {state : State} {responses : List Response}
    (h : plain.Blamed blaming state responses) :
    (blaming fun _ error => error).standing state responses = plain.standing state responses := by
  cases h with
  | nothing _ hsame => exact hsame _
  | call after _ _ hplain hblaming => exact (hblaming _).trans hplain.symm

theorem blamed_of_replaces (h : ∀ blame, Replaces blame.Replaced plain (blaming blame))
    (state : State) (responses : List Response) : plain.Blamed blaming state responses := by
  rcases (h fun _ error => error).standing state responses with
    ⟨-, hcounted⟩ | ⟨error, other, after, hreplaced, hplain, -⟩
  · refine .nothing hcounted fun blame => ?_
    rcases (h blame).standing state responses with
      ⟨hsame, -⟩ | ⟨error, other, after, hreplaced, hplain, -⟩
    · exact hsame
    · have hcounted := hcounted error after hplain
      cases hreplaced
      cases hcounted
  · cases hreplaced with
    | @call operator bound got hmem hviolates =>
        refine .call after hmem hviolates hplain fun blame => ?_
        rcases (h blame).standing state responses with
          ⟨-, hcounted⟩ | ⟨error, other, last, hreplaced, hfailed, hother⟩
        · exact nomatch hcounted _ _ hplain
        · -- Both are the error that the evaluation has ended with, so that they name one operator.
          obtain ⟨rfl, rfl⟩ : error = .arity bound got (some (Text.lower operator.name)) ∧
              last = after := by
            simpa [Standing.failed] using hfailed.symm.trans hplain
          rw [hother, hreplaced.eq_of_call hmem rfl]

theorem blames_of_replaces (h : ∀ blame, Replaces blame.Replaced plain (blaming blame)) :
    plain.Blames blaming where
  blamed := blamed_of_replaces h
  named state responses := (blamed_of_replaces h state responses).named

end Blames

end Comp

/-- Evaluates the forms of a text, where calls with a wrong number of operands end with another
error. -/
def Interpreter.evaluationBlaming (interpreter : Interpreter) (blame : Blame) (source : String) :
    Comp Value :=
  match interpreter.parse source with
  | .ok forms =>
    evalProgramBlaming blame interpreter.config.rounds interpreter.config.evalDepth forms
  | .error error => .fail error

theorem Interpreter.replaces_evaluation (interpreter : Interpreter) (blame : Blame)
    (source : String) :
    Comp.Replaces blame.Replaced (interpreter.evaluation source)
      (interpreter.evaluationBlaming blame source) := by
  have hcounted := Builtin.counted_readText interpreter.config.parseDepth source
  unfold evaluation evaluationBlaming parse
  cases hparse : Reader.readText interpreter.config.parseDepth source with
  | ok forms => exact replaces_evalProgram blame _ _ forms
  | error error =>
      rw [hparse] at hcounted
      cases hcounted with
      | error h => exact fun state => .fail h state

/-- A call that is within the arity of an operator that does not call back ends with no error about
a number of operands. -/
theorem counted_of_admits {operator : Builtin} (hmem : operator ∈ Builtin.all)
    (hname : operator.name ∉ ["MAPCAR", "APPLY", "EVAL"]) (ev : Evaluator) (level : Nat)
    {operands : List Value} (hadmits : operator.arity.Admits operands.length) {state after : State}
    {responses : List Response} {error : Error}
    (h : (apply ev level (.builtin operator) operands).standing state responses =
      .failed error after) : error.isArity = false := by
  have hcheck := Arity.check_of_admits hadmits
  have hsettles := Builtin.settled_all operator hmem operands (Arity.accepts_of_check hcheck)
  -- Nothing replaces an error, so that there is none to replace.
  have hreplaces : Comp.Replaces (fun _ _ => False) (apply ev level (.builtin operator) operands)
      (apply ev level (.builtin operator) operands) :=
    (Comp.replaces _).leaf hsettles hcheck (Builtin.action_ne_control hmem hname)
      fun _ => Comp.replaces_overlong
  rcases hreplaces.standing state responses with ⟨-, hcounted⟩ | ⟨_, _, _, h, -⟩
  · exact hcounted error after h
  · exact h.elim

/-- When a call ends with an error about a number of operands, and what the error says. -/
structure MiscountLaws : Prop where
  /-- An operator that does not call back ends with such an error if, and only if, the number of its
  operands is outside its arity. -/
  raised : ∀ operator ∈ Builtin.all, operator.name ∉ ["MAPCAR", "APPLY", "EVAL"] →
    ∀ ev level operands state responses,
      (∃ error after, (apply ev level (.builtin operator) operands).standing state responses =
        .failed error after ∧ error.isArity) ↔ ¬operator.arity.Admits operands.length
  /-- Outside its arity every operator fails with the bound that is violated, the number of its
  operands and its name in lower case, and does nothing else. -/
  worded : ∀ operator ∈ Builtin.all, ∀ operands, ¬operator.arity.Admits operands.length →
    ∃ bound, operator.arity.Violates bound operands.length ∧ ∀ ev level,
      apply ev level (.builtin operator) operands =
        .fail (.arity bound operands.length (some (Text.lower operator.name)))
  /-- Within its arity no operator finds that it has too few operands or too many, nor misses one
  that it reads at a fixed place. -/
  served : ∀ operator ∈ Builtin.all, ∀ operands, operator.arity.Admits operands.length →
    operator.Settles operands
  /-- Where the evaluation of a form has ended with such an error, it is the error of a call of the
  operator that it names. -/
  forms : ∀ rounds limit room level form,
    (eval rounds limit room level form).Blames (evalBlaming · rounds limit room level form)
  calls : ∀ rounds limit room level, ∀ callable : Callable, callable.Registered → ∀ operands,
    (apply (eval rounds limit room) level callable operands).Blames fun blame =>
      callBlaming blame (evalBlaming blame rounds limit room) level callable operands
  scripts : ∀ (interpreter : Interpreter) source,
    (interpreter.evaluation source).Blames (interpreter.evaluationBlaming · source)

theorem miscountLaws : MiscountLaws where
  raised operator hmem hname ev level operands state responses := by
    constructor
    · rintro ⟨error, after, hfailed, harity⟩ hadmits
      rw [counted_of_admits hmem hname ev level hadmits hfailed] at harity
      cases harity
    · intro houtside
      obtain ⟨bound, hviolates⟩ := Arity.not_admits_iff.mp houtside
      rw [apply_of_violates hviolates]
      exact ⟨_, state, Comp.standing_fail _ _ _, rfl⟩
  worded operator _ operands houtside := by
    obtain ⟨bound, hviolates⟩ := Arity.not_admits_iff.mp houtside
    exact ⟨bound, hviolates, fun ev level => apply_of_violates hviolates level⟩
  served operator hmem operands hadmits :=
    Builtin.settled_all operator hmem operands
      (Arity.accepts_of_check (Arity.check_of_admits hadmits))
  forms rounds limit room level form :=
    Comp.blames_of_replaces fun blame => replaces_eval blame rounds limit room level form
  calls rounds limit room level callable hregistered operands :=
    Comp.blames_of_replaces fun blame =>
      replaces_callBlaming (replaces_eval blame rounds limit room) level hregistered operands
  scripts interpreter source :=
    Comp.blames_of_replaces fun blame => interpreter.replaces_evaluation blame source

/-- `APPLY` that calls `CAR` on two operands ends with the error of `CAR`. -/
example (ev : Evaluator) (level : Nat) (state : State) (x y : Value) :
    apply ev level (.builtin Builtin.controls[1]) [.symbol "CAR", .list [x, y]] state =
      .done (.error (.error (.arity 1 2 (some "car")))) state := by
  have hcar : Callable.ofName state "CAR" = .ok (.builtin Builtin.lists[0]) :=
    Callable.ofName_of_find? rfl state
  rw [apply_apply rfl rfl]
  change (Comp.ofResult (Callable.ofName state "CAR") >>= fun callable =>
    apply ev (level + 1) callable [x, y]) state = _
  rw [hcar]
  exact congrFun (apply_of_violates (.exactly (by simp)) (level + 1)) state

end DraftLisp

import DraftLisp.Proofs.Builtin.Answers
import DraftLisp.Proofs.Builtin.Counted
import DraftLisp.Proofs.Builtin.Demanded
import DraftLisp.Proofs.Execution.Script

namespace DraftLisp

section Calls

variable {operator : Builtin} {ask : List Value → Drawing → Except Error Demand}
  (hmem : operator ∈ Builtin.all) (haction : operator.action = .input ask) {ev : Evaluator}
  {level : Nat} {operands : List Value} {state : State} {request : Request}

include hmem haction

theorem asked_iff_demands (drawing : Drawing) :
    ask operands drawing = .ok (.asked request) ↔ operator.Demands operands request :=
  Builtin.demanding_asking operator (Builtin.mem_asking hmem haction) ask haction _ _ _

theorem demands_of_waiting {shown : State} {resume : Settlement → Run Value}
    (h : apply ev level (.builtin operator) operands state = .waiting request shown resume) :
    operator.Demands operands request :=
  (asked_iff_demands hmem haction state.drawing).mp (asked_of_apply_waiting haction h).1

/-- A call of an operator that asks waits for what it demands, and for nothing else. -/
theorem apply_waits_iff :
    (∃ shown resume,
      apply ev level (.builtin operator) operands state = .waiting request shown resume) ↔
      operator.arity.accepts operands.length ∧ operator.Demands operands request := by
  constructor
  · rintro ⟨shown, resume, hwaits⟩
    refine ⟨?_, demands_of_waiting hmem haction hwaits⟩
    cases hcheck : operator.arity.check operands.length with
    | ok _ => exact Arity.accepts_of_check hcheck
    | error error =>
        rw [apply_of_check_error hcheck] at hwaits
        cases hwaits
  · rintro ⟨haccepts, hdemands⟩
    have hcheck := Arity.check_of_accepts haccepts
    have hask : ask operands state.drawing = .ok (.asked request) :=
      (asked_iff_demands hmem haction state.drawing).mpr hdemands
    rw [apply_input hcheck haction, Comp.bind_apply]
    simp only [Comp.observe, Run.bind, hask]
    exact ⟨_, _, rfl⟩

end Calls

namespace Builtin

/-- How an operator asks the user: it waits for its kind of input, with the prompt and the base
point that the operands of the call say. -/
structure AsksFor (operator : Builtin) (kind : InputKind) : Prop where
  applied : ∀ (ev : Evaluator) level operands before request,
    (∃ shown resume,
      apply ev level (.builtin operator) operands before = .waiting request shown resume) ↔
      operator.arity.accepts operands.length ∧ request.kind = kind ∧
        Asking.Demanded operands request
  /-- A form that calls it does so as soon as all operands have values. -/
  evaluated : ∀ rounds limit room forms before operands after request,
    Comp.mapAll (eval rounds limit room 0) forms before = .done (.ok operands) after →
      ((∃ shown resume, eval rounds limit (room + 1) 0 (.list (.symbol operator.name :: forms))
          before = .waiting request shown resume) ↔
        operator.arity.accepts operands.length ∧ request.kind = kind ∧
          Asking.Demanded operands request)

theorem asksFor_of_asked {name : String} {kind : InputKind} (h : (name, kind) ∈ asked) :
    ∃ operator, find? name = some operator ∧ operator.AsksFor kind := by
  obtain ⟨operator, ask, hfind, rfl, haction⟩ := find?_of_asked h
  have happlied : ∀ (ev : Evaluator) level operands before request,
      (∃ shown resume,
        apply ev level (.builtin operator) operands before = .waiting request shown resume) ↔
        operator.arity.accepts operands.length ∧ request.kind = kind ∧
          Asking.Demanded operands request := by
    intro ev level operands before request
    rw [apply_waits_iff (List.mem_of_find?_eq_some hfind) haction, Demands]
    refine and_congr_right fun _ => and_congr_left fun _ => ?_
    exact ⟨fun hkind => kind_eq_of_asked hkind h, fun hkind => hkind ▸ h⟩
  refine ⟨operator, hfind, happlied, ?_⟩
  intro rounds limit room forms before operands after request hvalues
  rw [eval_call_builtin operator (ofName?_of_asked h) hfind, Comp.bind_apply, hvalues]
  exact happlied _ _ _ _ _

end Builtin

namespace Run

/-- What is done with a run inside another one. -/
inductive Context : {α : Type} → (Run Value → Run α) → Prop
  | hole : Context id
  | bind {α β : Type} {context : Run Value → Run α} (h : Context context)
      (next : α → State → Run β) : Context fun run => (context run).bind next
  | mapState {α : Type} {context : Run Value → Run α} (h : Context context)
      (change : State → State) : Context fun run => (context run).mapState change
  | report {context : Run Value → Run Value} (h : Context context) (echo : Bool) :
      Context fun run => Interpreter.report echo (context run)

/-- A run that waits goes on inside its context. -/
theorem Context.waiting {context : Run Value → Run α} (h : Context context) (request : Request)
    (shown : State) (resume : Settlement → Run Value) :
    ∃ state, context (.waiting request shown resume) =
      .waiting request state fun outcome => context (resume outcome) := by
  induction h with
  | hole => exact ⟨shown, rfl⟩
  | bind h next ih =>
      obtain ⟨state, hwaits⟩ := ih
      exact ⟨state, by simp only [hwaits, Run.bind]⟩
  | mapState h change ih =>
      obtain ⟨state, hwaits⟩ := ih
      exact ⟨change state, by simp only [hwaits, Run.mapState]⟩
  | report h echo ih =>
      obtain ⟨state, hwaits⟩ := ih
      exact ⟨state, by simp only [hwaits, Interpreter.report]⟩

/-- The run waits in a call of an operator that asks, for what this call demands. -/
inductive InCall (run : Run α) (request : Request) : Prop
  | intro {operator : Builtin} {ask : List Value → Drawing → Except Error Demand} {ev : Evaluator}
      {level : Nat} {operands : List Value} {before shown : State}
      {resume : Settlement → Run Value} {context : Run Value → Run α}
      (hmem : operator ∈ Builtin.all) (haction : operator.action = .input ask)
      (hcall : apply ev level (.builtin operator) operands before = .waiting request shown resume)
      (hdemands : operator.Demands operands request) (hcontext : Context context)
      (hrun : run = context (apply ev level (.builtin operator) operands before))

/-- Wherever the run waits, it is in a call that demands what it waits for. -/
def Calling : Run α → Prop
  | .done _ _ => True
  | .waiting request state resume =>
      InCall (.waiting request state resume) request ∧ ∀ outcome, (resume outcome).Calling

theorem InCall.map {run : Run α} {request : Request} (h : run.InCall request)
    (wrap : Run α → Run β)
    (hwrap : ∀ {context : Run Value → Run α}, Context context →
      Context fun run => wrap (context run)) : (wrap run).InCall request := by
  obtain ⟨hmem, haction, hcall, hdemands, hcontext, rfl⟩ := h
  exact .intro hmem haction hcall hdemands (hwrap hcontext) rfl

theorem Calling.bind {run : Run α} {next : α → State → Run β} (h : run.Calling)
    (hnext : ∀ value state, (next value state).Calling) : (run.bind next).Calling := by
  induction run with
  | done outcome state =>
      cases outcome with
      | ok value => exact hnext value state
      | error reason => exact trivial
  | waiting request state resume ih =>
      exact ⟨h.1.map (·.bind next) fun hcontext => hcontext.bind next,
        fun outcome => ih outcome (h.2 outcome)⟩

theorem Calling.mapState {run : Run α} (h : run.Calling) (change : State → State) :
    (run.mapState change).Calling := by
  induction run with
  | done outcome state => exact trivial
  | waiting request state resume ih =>
      exact ⟨h.1.map (·.mapState change) fun hcontext => hcontext.mapState change,
        fun outcome => ih outcome (h.2 outcome)⟩

theorem Calling.report {run : Run Value} (h : run.Calling) (echo : Bool) :
    (Interpreter.report echo run).Calling := by
  induction run with
  | done outcome state => rcases outcome with (_ | _ | _) | _ <;> exact trivial
  | waiting request state resume ih =>
      exact ⟨h.1.map (Interpreter.report echo) fun hcontext => hcontext.report echo,
        fun outcome => ih outcome (h.2 outcome)⟩

theorem Calling.follow {run : Run α} (h : run.Calling) (received : List Settlement) :
    (run.follow received).Calling := by
  induction received generalizing run with
  | nil => exact h
  | cons outcome rest ih =>
      cases run with
      | done result state => exact h
      | waiting request state resume => exact ih (h.2 outcome)

end Run

namespace Comp

theorem calling_input (ev : Evaluator) (level : Nat) {operator : Builtin}
    {ask : List Value → Drawing → Except Error Demand} (hmem : operator ∈ Builtin.all)
    (haction : operator.action = .input ask) (operands : List Value) (state : State) :
    (apply ev level (.builtin operator) operands state).Calling := by
  cases hcall : apply ev level (.builtin operator) operands state with
  | done outcome after => exact trivial
  | waiting request shown resume =>
      have hdemands := demands_of_waiting hmem haction hcall
      refine ⟨.intro hmem haction hcall hdemands .hole hcall.symm, fun outcome => ?_⟩
      rw [resume_of_apply_waiting haction hcall outcome]
      exact trivial

def calling : Property where
  holds _ _ comp := ∀ state, (comp state).Calling
  pure _ _ _ _ := trivial
  halt _ _ _ _ := trivial
  observe_bind h state := by
    rw [bind_apply]
    exact h state state
  bind h hnext state := by
    rw [bind_apply]
    exact (h state).bind hnext
  within _ _ _ frame h state := (h { state with frame }).mapState _
  loop _ _ _ := trivial
  global _ _ _ _ := trivial
  named _ _ _ _ := trivial
  closure _ _ _ _ := trivial
  edit _ _ _ _ _ _ state := by
    unfold edit
    split <;> exact trivial
  input _ ev level _ _ operands hmem haction _ := calling_input ev level hmem haction operands

end Comp

/-- Wherever a script waits, it is in a call of an operator that asks. -/
theorem Interpreter.calling_script (interpreter : Interpreter) (source : String) :
    (interpreter.script source).Calling :=
  have hcalling : Comp.calling.holds (fun _ => True) (interpreter.evaluation source) :=
    interpreter.holds_evaluation Comp.calling source
  (hcalling { interpreter.session with frame := [] }).report _

end DraftLisp

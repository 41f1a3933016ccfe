import DraftLisp.Proofs.Evaluation.Congruence

/-!
An evaluation that asks for a text that is too long ends without a value and without an error. It is
compared with an evaluation in which the calls that ask for such texts are refused with an error.
-/

namespace DraftLisp

namespace Run

/-- The run with a refusal in the place of every text that is too long. -/
def refusing (refusal : Error) : Run α → Run α
  | .done (.error .overlong) state => .done (.error (.error refusal)) state
  | .done outcome state => .done outcome state
  | .waiting request state resume =>
    .waiting request state fun answer => (resume answer).refusing refusal

theorem refusing_bind (refusal : Error) (run : Run α) (next : α → State → Run β) :
    (run.bind next).refusing refusal =
      (run.refusing refusal).bind fun value state => (next value state).refusing refusal := by
  induction run with
  | done outcome state => rcases outcome with (_ | _ | _) | _ <;> rfl
  | waiting request state resume ih => simp only [bind, refusing, ih]

theorem refusing_mapState (refusal : Error) (run : Run α) (change : State → State) :
    (run.mapState change).refusing refusal = (run.refusing refusal).mapState change := by
  induction run with
  | done outcome state => rcases outcome with (_ | _ | _) | _ <;> rfl
  | waiting request state resume ih => simp only [mapState, refusing, ih]

end Run

namespace Comp

/-- The second computation does what the first one does, with a refusal for texts that are too
long. -/
def Refuses (refusal : Error) (first second : Comp α) : Prop :=
  ∀ state, (first state).refusing refusal = second state

variable {refusal : Error}

theorem Refuses.bind {first first' : Comp α} {next next' : α → Comp β}
    (h : Refuses refusal first first')
    (hnext : ∀ value, Refuses refusal (next value) (next' value)) :
    Refuses refusal (first >>= next) (first' >>= next') := by
  intro state
  rw [bind_apply, bind_apply, ← h state]
  refine (Run.refusing_bind refusal (first state) next).trans ?_
  congr 1
  funext value after
  exact hnext value after

theorem refuses_fail (error : Error) : Refuses refusal (fail error : Comp α) (fail error) :=
  fun _ => rfl

theorem Refuses.within {body body' : Comp α} (frame : Bindings Value)
    (h : Refuses refusal body body') :
    Refuses refusal (Comp.within frame body) (Comp.within frame body') := by
  intro state
  unfold Comp.within
  rw [Run.refusing_mapState, h]

theorem refuses_edit (step : Edit α) : Refuses refusal (edit step) (edit step) := by
  intro state
  unfold edit
  split <;> rfl

theorem refuses_request (wanted : Request) :
    Refuses refusal (request wanted) (request wanted) := by
  intro state
  unfold request
  simp only [Run.refusing, Run.waiting.injEq, true_and]
  funext outcome
  cases outcome <;> rfl

def refuses (refusal : Error) : Congruence where
  rel := Refuses refusal
  ready h state := by
    obtain ⟨value, after, hready⟩ := h state
    rw [hready]
    rfl
  fail _ := refuses_fail _
  endless _ := rfl
  bind := Refuses.bind
  within := Refuses.within
  observe_bind h state := h state state
  request := refuses_request
  edit _ := refuses_edit _

end Comp

namespace Callable

/-- A call that asks for a text that is too long. -/
def asksTooLong : Callable → List Value → Bool
  | .builtin operator, operands => operator.asksTooLong operands
  | _, _ => false

end Callable

open Value (nestingOf)

/-- Applying, where calls that ask for texts that are too long are refused. There is room for calls
that nest. -/
def applyRefusing (refusal : Error) (ev : Evaluator) :
    (room : Nat) → Nat → Callable → List Value → Comp Value
  | 0, _, _, _ => .fail refusal
  | room + 1, level, callable, operands =>
    if callable.asksTooLong operands then .fail refusal
    else applyWith ev (applyRefusing refusal ev room) level callable operands

/-- Evaluation, where calls that ask for texts that are too long are refused. -/
def evalRefusing (refusal : Error) (rounds limit : Nat) : (room : Nat) → Evaluator
  | 0, _, _ => .fail (.eval (.depth limit))
  | room + 1, 0, form =>
    let ev := evalRefusing refusal rounds limit room
    evalFormWith rounds ev
      (fun callable operands =>
        applyRefusing refusal ev (nestingOf operands + 1) 1 callable operands)
      form
  | room + 1, level + 1, form => evalRefusing refusal rounds limit room level form

def evalProgramRefusing (refusal : Error) (rounds limit : Nat) (forms : List Form) : Comp Value :=
  evalBody (fun form => .within [] (evalRefusing refusal rounds limit limit 0 form)) .nil forms

namespace Builtin

theorem filter_named : all.filter (·.name == "RTOS") = [texts[7]] := rfl

theorem eq_of_asksTooLong {operator : Builtin} (h : operator ∈ all) {operands : List Value}
    (hlong : operator.asksTooLong operands) : operator = texts[7] := by
  have hname := (asksTooLong_iff.mp hlong).1
  have hmem : operator ∈ all.filter (·.name == "RTOS") := by
    rw [List.mem_filter]
    exact ⟨h, by simpa using hname⟩
  rw [filter_named] at hmem
  exact List.mem_singleton.mp hmem

end Builtin

section Application

open DraftLisp.Comp Builtin

variable {refusal : Error} {ev ev' : Evaluator}
  (hev : ∀ level form, Refuses refusal (ev level form) (ev' level form))

theorem refuses_of_asksTooLong (ev : Evaluator) (level : Nat) {callable : Callable}
    (hcallable : callable.Registered) {operands : List Value}
    (h : callable.asksTooLong operands) :
    Refuses refusal (apply ev level callable operands) (.fail refusal) := by
  cases callable with
  | builtin operator =>
      obtain rfl := eq_of_asksTooLong hcallable h
      obtain ⟨-, x, mode, places, rfl, hplaces⟩ := asksTooLong_iff.mp h
      have hrun : Strings.spellNumber x [mode, places] = .error .overlong := if_pos hplaces
      rw [apply_pure rfl rfl]
      change Refuses refusal
        (.ofExcept (namingHalt "RTOS" (Strings.spellNumber x [mode, places]))) _
      rw [hrun]
      exact fun _ => rfl
  | _ => cases h

include hev

theorem refuses_applyRefusing {room : Nat} (level : Nat) {callable : Callable}
    (hcallable : callable.Registered) {operands : List Value} (h : nestingOf operands < room) :
    Refuses refusal (apply ev level callable operands)
      (applyRefusing refusal ev' room level callable operands) := by
  induction room generalizing level callable operands with
  | zero => omega
  | succ room ih =>
      rw [applyRefusing]
      split
      · exact refuses_of_asksTooLong ev level hcallable ‹_›
      · rename_i hshort
        cases callable with
        | closure params body captured =>
            exact (refuses refusal).closure hev params body captured operands
        | function function => exact (refuses refusal).function hev function operands
        | builtin operator =>
            cases hcheck : operator.arity.check operands.length with
            | error error =>
                unfold applyWith
                simp only [hcheck]
                rw [apply_of_check_error hcheck, apply_of_check_error hcheck]
                exact refuses_fail _
            | ok _ =>
                exact (refuses refusal).builtin hev hcallable hcheck
                  (fun hlong => absurd hlong hshort)
                  fun callable hregistered inner hinner => ih (level + 1) hregistered (by omega)

end Application

/-- Where an evaluation ends with a text that is too long, the evaluation that refuses calls for
such texts ends with the refusal, and all else is the same. -/
theorem refuses_eval (refusal : Error) (rounds limit room level : Nat) (form : Form) :
    Comp.Refuses refusal (eval rounds limit room level form)
      (evalRefusing refusal rounds limit room level form) := by
  induction room generalizing level form with
  | zero => exact fun _ => rfl
  | succ room ih =>
      cases level with
      | zero =>
          exact (Comp.refuses refusal).evalForm ih
            (fun callable hcallable operands =>
              refuses_applyRefusing ih 1 hcallable (Nat.lt_succ_self (nestingOf operands)))
            rounds form
      | succ level => exact ih level form

theorem refuses_evalProgram (refusal : Error) (rounds limit : Nat) (forms : List Form) :
    Comp.Refuses refusal (evalProgram rounds limit forms)
      (evalProgramRefusing refusal rounds limit forms) :=
  (Comp.refuses refusal).evalBody
    (fun form => (refuses_eval refusal rounds limit limit 0 form).within []) .nil forms

end DraftLisp

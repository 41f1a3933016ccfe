import DraftLisp.Proofs.Evaluation.Refused
import DraftLisp.Proofs.Evaluation.Termination
import DraftLisp.Proofs.Execution.Suspension

namespace DraftLisp

namespace Run

theorem follow_refusing (refusal : Error) (run : Run α) (received : List Settlement) :
    (run.refusing refusal).follow received = (run.follow received).refusing refusal := by
  induction received generalizing run with
  | nil => rfl
  | cons outcome rest ih =>
      cases run with
      | done result state => rcases result with (_ | _ | _) | _ <;> rfl
      | waiting request state resume => exact ih (resume outcome)

end Run

namespace Interpreter

theorem follow_report (echo : Bool) (run : Run Value) (received : List Settlement) :
    (report echo run).follow received = report echo (run.follow received) := by
  induction received generalizing run with
  | nil => rfl
  | cons outcome rest ih =>
      cases run with
      | done result state => rcases result with (_ | _ | _) | _ <;> rfl
      | waiting request state resume => exact ih (resume outcome)

/-- Evaluates the forms of a text, where calls that ask for texts that are too long are refused. -/
def evaluationRefusing (interpreter : Interpreter) (refusal : Error) (source : String) :
    Comp Value :=
  match interpreter.parse source with
  | .ok forms =>
    evalProgramRefusing refusal interpreter.config.rounds interpreter.config.evalDepth forms
  | .error error => .fail error

theorem refuses_evaluation (interpreter : Interpreter) (refusal : Error) (source : String) :
    Comp.Refuses refusal (interpreter.evaluation source)
      (interpreter.evaluationRefusing refusal source) := by
  unfold evaluation evaluationRefusing
  cases interpreter.parse source with
  | ok forms => exact refuses_evalProgram refusal _ _ forms
  | error error => exact Comp.refuses_fail error

/-- The evaluation has come to a text that is too long: with the same outcomes, the evaluation that
refuses calls for such texts has come to the refusal. -/
def AskedTooLong (interpreter : Interpreter) (source : String) (state : State)
    (received : List Settlement) : Prop :=
  ∀ refusal, ∃ after, (interpreter.evaluationRefusing refusal source state).follow received =
    .done (.error (.error refusal)) after

variable {interpreter : Interpreter} {source : String} {state : State} {received : List Settlement}

theorem askedTooLong_of_follow {after : State}
    (h : (interpreter.evaluation source state).follow received = .done (.error .overlong) after) :
    interpreter.AskedTooLong source state received := by
  intro refusal
  refine ⟨after, ?_⟩
  rw [← interpreter.refuses_evaluation refusal source state, Run.follow_refusing, h]
  rfl

theorem follow_script (interpreter : Interpreter) (source : String) (received : List Settlement) :
    (interpreter.script source).follow received =
      report interpreter.config.echoResult
        ((interpreter.evaluation source { interpreter.session with frame := [] }).follow
          received) :=
  follow_report _ _ _

/-- A script reports every error, so that it halts for no other reason than its evaluation. -/
theorem follow_of_script {reason : Halt} {after : State}
    (h : (interpreter.script source).follow received = .done (.error reason) after) :
    (interpreter.evaluation source { interpreter.session with frame := [] }).follow received =
      .done (.error reason) after ∧ ∀ error, reason ≠ .error error := by
  rw [follow_script] at h
  revert h
  generalize (interpreter.evaluation source _).follow received = run
  intro h
  rcases run with ⟨(_ | _ | _) | _, last⟩ | _
  · cases h
  · cases h
    exact ⟨rfl, nofun⟩
  · cases h
    exact ⟨rfl, nofun⟩
  · cases h
  · cases h

end Interpreter

open Dialogue Interpreter

/-- What becomes of calls, evaluations and steps. -/
structure Unbroken (interpreter : Interpreter) : Prop where
  /-- An operator that has as many operands as it accepts comes to a value, or to an error that is
  none about their number, unless `RTOS` is asked for too many places. Integers wrap around, as in a
  build without overflow checks; a build with them panics where `GCD` takes the magnitude of the
  least 64-bit integer. -/
  calls : ∀ operator ∈ Builtin.all, ∀ operands, operator.arity.accepts operands.length →
    operator.Settles operands
  /-- An evaluation in which such calls are refused does the same up to the first of them. -/
  refuses : ∀ refusal source,
    Comp.Refuses refusal (interpreter.evaluation source)
      (interpreter.evaluationRefusing refusal source)
  /-- An evaluation ends with a value or an error, unless a loop is given up or such a call is
  made. -/
  ends : ∀ source state received outcome after,
    (interpreter.evaluation source state).follow received = .done outcome after →
      (∃ value, outcome = .ok value) ∨ (∃ error, outcome = .error (.error error)) ∨
        outcome = .error .endless ∨
        outcome = .error .overlong ∧ interpreter.AskedTooLong source state received
  /-- Whatever the host has done, a step ends with a value or an open request, with the same
  exceptions. -/
  steps : ∀ source moves move report,
    ((after interpreter source moves).move move).1 = some report →
      (∃ value, report = .finished value) ∨ (∃ request, report = .awaiting request) ∨
        report = .halted .endless ∨
        report = .halted .overlong ∧
          interpreter.AskedTooLong source { interpreter.session with frame := [] }
            (after interpreter source (moves ++ [move])).received

/-- No script and no call comes to anything but a value, an error or an open request, with the
exception of loops that are given up and of texts that are too long. -/
theorem unbroken (interpreter : Interpreter) : Unbroken interpreter where
  calls := Builtin.settled_all
  refuses := interpreter.refuses_evaluation
  ends source state received outcome after h := by
    rcases outcome with (error | _ | _) | value
    · exact .inr (.inl ⟨error, rfl⟩)
    · exact .inr (.inr (.inr ⟨rfl, askedTooLong_of_follow h⟩))
    · exact .inr (.inr (.inl rfl))
    · exact .inl ⟨value, rfl⟩
  steps source moves move report h := by
    obtain ⟨hpolls, rfl⟩ := reported _ h
    have hsound := (sound_after interpreter source moves).move move
    rw [after_concat]
    cases (sound_after interpreter source moves).polled hpolls with
    | @waiting ticket request _ _ htask _ hslot =>
        refine .inr (.inl ⟨request, ?_⟩)
        simp [Execution.standing, htask, Broker.pending, hslot]
    | @ended outcome htask =>
        cases hsound.follows with
        | ready hother => simp [htask] at hother
        | waiting hother => simp [htask] at hother
        | @ended outcome state hother hrun =>
            simp only [Execution.standing, hother]
            rcases outcome with reason | value
            · obtain ⟨hevaluation, hreason⟩ := follow_of_script hrun
              rcases reason with error | _ | _
              · exact absurd rfl (hreason error)
              · exact .inr (.inr (.inr ⟨rfl, askedTooLong_of_follow hevaluation⟩))
              · exact .inr (.inr (.inl rfl))
            · exact .inl ⟨value, rfl⟩

/-- `RTOS` accepts three operands for which it comes to neither a value nor an error, and a step of
the script that calls it with them comes to nothing else. -/
theorem not_unbroken :
    (∃ operator ∈ Builtin.all, operator.name = "RTOS" ∧ ∃ run, operator.action = .pure run ∧
      ∃ operands : List Value, operator.arity.accepts operands.length ∧
        (∀ value, run operands ≠ .ok value) ∧ ∀ error, run operands ≠ .error (.error error)) ∧
      (Execution.start (new .default) longText).step.1 = .halted .overlong := by
  constructor
  · have hmem : Builtin.texts[7] ∈ Builtin.all := by simp [Builtin.all]
    refine ⟨Builtin.texts[7], hmem, rfl, _, rfl,
      [.number 1.0, .number 2.0, .number 65536.0], rfl, ?_⟩
    change (∀ value, Builtin.Strings.spellNumber 1.0 [2.0, 65536.0] ≠ .ok value) ∧
      ∀ error, Builtin.Strings.spellNumber 1.0 [2.0, 65536.0] ≠ .error (.error error)
    rw [spellNumber_longForm]
    exact ⟨by simp, by simp⟩
  · have hscript : (new .default).batch longText (start .default) =
        .done (.error .overlong) (start .default) := by
      unfold batch
      rw [evaluation_longForm]
      rfl
    change Execution.standing ⟨((new .default).advance ((new .default).batch longText
      (start .default))).1, ((new .default).advance ((new .default).batch longText
      (start .default))).2⟩ = _
    rw [hscript]
    rfl

end DraftLisp

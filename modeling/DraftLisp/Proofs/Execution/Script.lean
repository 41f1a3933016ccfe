import DraftLisp.Interpreter
import DraftLisp.Proofs.Evaluation.Kept

namespace DraftLisp

namespace Run

/-- The rest of a run behind some outcomes; those behind its end are ignored. -/
def follow (run : Run α) : List Settlement → Run α
  | [] => run
  | outcome :: rest =>
    match run with
    | .done .. => run
    | .waiting _ _ resume => (resume outcome).follow rest
termination_by structural received => received

theorem follow_concat_of_waiting {run : Run α} {received : List Settlement} {request : Request}
    {state : State} {resume : Settlement → Run α}
    (h : run.follow received = .waiting request state resume) (outcome : Settlement) :
    run.follow (received ++ [outcome]) = resume outcome := by
  induction received generalizing run with
  | nil =>
      obtain rfl : run = .waiting request state resume := h
      rfl
  | cons first rest ih =>
      cases run with
      | done result last => simp [follow] at h
      | waiting other last next => exact ih h

end Run

namespace Interpreter

/-- The run of a script, before its first request. -/
def script (interpreter : Interpreter) (source : String) : Run Value :=
  interpreter.batch source { interpreter.session with frame := [] }

theorem holds_evaluation (P : Comp.Property) {loops : String → Prop} (interpreter : Interpreter)
    (source : String) : P.holds loops (interpreter.evaluation source) := by
  unfold evaluation
  split
  · exact P.evalProgram _ _ _
  · exact P.fail _

theorem keeps_evaluation {G : Guarantee} (hG : G.Closed) {loops : String → Prop}
    (interpreter : Interpreter) (source : String) :
    Comp.Keeps G loops (interpreter.evaluation source) :=
  holds_evaluation hG.property interpreter source

end Interpreter

end DraftLisp

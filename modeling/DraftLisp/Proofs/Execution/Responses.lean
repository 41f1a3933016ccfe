import DraftLisp.Proofs.Input.Encodings
import DraftLisp.Proofs.Simulation.Runs

namespace DraftLisp

/-- What happens to an open request: it is answered or given up, or another one takes its place. -/
inductive Response where
  | answer (raw : Json)
  | cancel
  | displaced

def Response.settlement (kind : InputKind) : Response → Settlement
  | .answer raw => .ok (Answer.value kind raw)
  | .cancel => .ok .nil
  | .displaced => .error (.inputOrphaned kind.name)

namespace Run

/-- The rest of a run behind some responses; those behind its end are ignored. -/
def answered (run : Run α) : List Response → Run α
  | [] => run
  | response :: rest =>
    match run with
    | .done .. => run
    | .waiting request _ resume => (resume (response.settlement request.kind)).answered rest
termination_by structural responses => responses

theorem answered_done (outcome : Except Halt α) (state : State) (responses : List Response) :
    (Run.done outcome state).answered responses = .done outcome state := by
  cases responses <;> rfl

theorem answered_mapState (run : Run α) (change : State → State) (responses : List Response) :
    (run.mapState change).answered responses = (run.answered responses).mapState change := by
  induction responses generalizing run with
  | nil => rfl
  | cons response rest ih =>
      cases run with
      | done outcome state => rfl
      | waiting request state resume => exact ih (resume (response.settlement request.kind))

end Run

/-- Where a run stands: it has ended, or it waits for the outcome of a request. -/
inductive Standing (α : Type) where
  | ended (outcome : Except Halt α) (state : State)
  | asking (request : Request) (state : State)

def Run.standing : Run α → Standing α
  | .done outcome state => .ended outcome state
  | .waiting request state _ => .asking request state

def Standing.mapState (change : State → State) : Standing α → Standing α
  | .ended outcome state => .ended outcome (change state)
  | .asking request state => .asking request (change state)

theorem Run.standing_mapState (run : Run α) (change : State → State) :
    (run.mapState change).standing = run.standing.mapState change := by
  cases run <;> rfl

namespace Simulation

section Answers

variable {S : Simulation} (hS : S.Lawful)

include hS

theorem Lawful.pointValue (x y z : Float) :
    S.values (Answer.pointValue x y z) (Answer.pointValue x y z) :=
  hS.cons (hS.number x) (.cons (hS.number y) (.cons (hS.number z) .nil))

theorem Lawful.values_place {json : Json} {place : Value} (h : Answer.EncodesPlace json place) :
    S.values place place := by
  cases h <;> exact hS.pointValue _ _ _

theorem Lawful.values_pick {json : Json} {pick : Value} (h : Answer.EncodesPick json pick) :
    S.values pick pick := by
  cases h with
  | members _ _ hplace | two hplace =>
      exact hS.cons (hS.entity _) (.cons (hS.values_place hplace) .nil)

theorem Lawful.values_encoded {kind : InputKind} {raw : Json} {value : Value}
    (h : Answer.Encodes kind raw value) : S.values value value := by
  cases h with
  | null | nothing => exact hS.nil
  | point hplace | corner hplace => exact hS.values_place hplace
  | dist _ | real _ | angle _ | int _ => exact hS.number _
  | string _ | keyword _ => exact hS.string _
  | entsel hpick => exact hS.values_pick hpick
  | ssget _ => exact hS.selection _

/-- What a user answers has no functions in it, so that it corresponds to itself. -/
theorem Lawful.outcomes_settlement (kind : InputKind) (response : Response) :
    S.Outcomes S.values (response.settlement kind) (response.settlement kind) := by
  cases response with
  | answer raw =>
      refine .ok (hS.ofOption ?_)
      cases hvalue : Answer.value? kind raw with
      | none => exact .none
      | some value => exact .some (hS.values_encoded (Answer.value?_eq_some_iff.mp hvalue))
  | cancel => exact .ok hS.nil
  | displaced => exact .error (.refl _)

variable {α β : Type} {R : α → β → Prop}

theorem Lawful.matches_answered {first : Run α} {second : Run β} (h : S.Matches R first second)
    (responses : List Response) :
    S.Matches R (first.answered responses) (second.answered responses) := by
  induction responses generalizing first second with
  | nil => exact h
  | cons response rest ih =>
      cases h with
      | value h hstates => exact .value h hstates
      | halt h hstates => exact .halt h hstates
      | cut state run h =>
          rw [Run.answered_done]
          exact .cut state _ h
      | waiting hstates h => exact ih (h _ _ (hS.outcomes_settlement _ response))

end Answers

/-- Where two corresponding runs stand: the second one further on only if the first is cut off. -/
inductive Standings (S : Simulation) {α β : Type} (R : α → β → Prop) :
    Standing α → Standing β → Prop
  | ended {outcome : Except Halt α} {outcome' : Except Halt β} {state state' : State} :
      S.Endings R outcome outcome' → S.States state state' →
      Standings S R (.ended outcome state) (.ended outcome' state')
  | cut {reason : Halt} (state : State) (standing : Standing β) : S.cuts reason →
      Standings S R (.ended (.error reason) state) standing
  | asking (request : Request) {state state' : State} : S.States state state' →
      Standings S R (.asking request state) (.asking request state')

theorem Matches.standing {S : Simulation} {α β : Type} {R : α → β → Prop} {first : Run α}
    {second : Run β} (h : S.Matches R first second) :
    S.Standings R first.standing second.standing := by
  cases h with
  | value h hstates => exact .ended (.ok h) hstates
  | halt h hstates => exact .ended (.halt h) hstates
  | cut state run h => exact .cut state _ h
  | waiting hstates _ => exact .asking _ hstates

end Simulation

end DraftLisp

import DraftLisp.Broker
import DraftLisp.Builtin.Basic
import DraftLisp.Evaluation.State

/-!
Runs of scripts as data. A run has ended, or it waits for the outcome of a request and goes on with
it; so a run is a tree that branches over all answers.
-/

namespace DraftLisp

inductive Run (α : Type) where
  | done (outcome : Except Halt α) (state : State)
  | waiting (request : Request) (state : State) (resume : Settlement → Run α)

namespace Run

/-- Goes on with the value of a run wherever it ends with one. -/
def bind (run : Run α) (next : α → State → Run β) : Run β :=
  match run with
  | .done (.ok value) state => next value state
  | .done (.error halt) state => .done (.error halt) state
  | .waiting request state resume => .waiting request state fun answer => (resume answer).bind next

/-- Changes the states that can be observed: where the run waits and where it ends. -/
def mapState (change : State → State) : Run α → Run α
  | .done outcome state => .done outcome (change state)
  | .waiting request state resume =>
    .waiting request (change state) fun answer => (resume answer).mapState change

theorem bind_pure (run : Run α) : (run.bind fun value state => .done (.ok value) state) = run := by
  induction run with
  | done outcome state => cases outcome <;> rfl
  | waiting request state resume ih => simp only [bind, ih]

theorem bind_assoc (run : Run α) (f : α → State → Run β) (g : β → State → Run γ) :
    (run.bind f).bind g = run.bind fun value state => (f value state).bind g := by
  induction run with
  | done outcome state => cases outcome <;> rfl
  | waiting request state resume ih => simp only [bind, ih]

end Run

def Comp (α : Type) := State → Run α

namespace Comp

@[always_inline, inline]
protected def pure (value : α) : Comp α := fun state => .done (.ok value) state

@[always_inline, inline]
protected def bind (first : Comp α) (next : α → Comp β) : Comp β := fun state =>
  match first state with
  | .done (.ok value) state => next value state
  | .done (.error halt) state => .done (.error halt) state
  | .waiting request state resume => .waiting request state fun answer => (resume answer).bind next

@[always_inline]
instance : Monad Comp where
  pure := Comp.pure
  bind := Comp.bind

theorem bind_apply (first : Comp α) (next : α → Comp β) (state : State) :
    (first >>= next) state = (first state).bind next := by
  change Comp.bind first next state = _
  unfold Comp.bind
  cases first state with
  | done outcome state => cases outcome <;> rfl
  | waiting request state resume => rfl

instance : LawfulMonad Comp := LawfulMonad.mk' Comp
  (by
    intro α x
    funext state
    exact (bind_apply x _ state).trans (Run.bind_pure (x state)))
  (by
    intro α β a f
    rfl)
  (by
    intro α β γ x f g
    funext state
    rw [bind_apply, bind_apply, bind_apply]
    refine (Run.bind_assoc (x state) f g).trans ?_
    congr 1
    funext value next
    exact (bind_apply (f value) g next).symm)

def halt (reason : Halt) : Comp α := fun state => .done (.error reason) state

def fail (error : Error) : Comp α := halt (.error error)

def ofExcept : Except Halt α → Comp α
  | .ok value => pure value
  | .error reason => halt reason

def ofResult : Except Error α → Comp α
  | .ok value => pure value
  | .error error => fail error

def observe (view : State → α) : Comp α := fun state => .done (.ok (view state)) state

def modify (change : State → State) : Comp Unit := fun state => .done (.ok ()) (change state)

def edit (step : Edit α) : Comp α := fun state =>
  match step state.drawing with
  | (.ok value, drawing) => .done (.ok value) { state with drawing }
  | (.error error, drawing) => .done (.error (.error error)) { state with drawing }

/-- Shows the prompt, if there is one, and waits for the answer. -/
def request (wanted : Request) : Comp Value := fun state =>
  let shown :=
    if wanted.prompt.isEmpty then state
    else { state with drawing := state.drawing.writeLog wanted.prompt .prompt }
  .waiting wanted shown fun
    | .ok value => .done (.ok value) shown
    | .error error => .done (.error (.error error)) shown

/-- Evaluates with other variables; those of the caller are back wherever it waits or ends. -/
def within (frame : Bindings Value) (body : Comp α) : Comp α := fun state =>
  (body { state with frame }).mapState fun after => { after with frame := state.frame }

end Comp

end DraftLisp

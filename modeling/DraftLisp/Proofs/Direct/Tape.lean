import DraftLisp.Proofs.Evaluation.Application
import DraftLisp.Proofs.Execution.Responses

/-!
Computations in one go. The responses of the user lie ready on a tape, and a request takes the next
one at once.
-/

namespace DraftLisp

structure Tape where
  state : State
  /-- The responses that no request has taken yet. -/
  responses : List Response
  /-- The requests that were made, oldest first. -/
  requests : List Request

/-- Why a computation in one go ends without a value. -/
inductive Stop where
  | halted (reason : Halt)
  /-- There is no response to the last request. -/
  | unanswered

abbrev Direct (α : Type) := ExceptT Stop (StateM Tape) α

namespace Direct

theorem bind_apply (first : Direct α) (next : α → Direct β) (tape : Tape) :
    (first >>= next) tape =
      match first tape with
      | (.ok result, after) => next result after
      | (.error stop, after) => (.error stop, after) := by
  change (let (outcome, after) := first tape; ExceptT.bindCont next outcome after) = _
  rcases first tape with ⟨_ | _, after⟩ <;> rfl

def halt (reason : Halt) : Direct α := throw (.halted reason)

def fail (error : Error) : Direct α := halt (.error error)

def ofExcept : Except Halt α → Direct α
  | .ok value => pure value
  | .error reason => halt reason

def ofResult : Except Error α → Direct α
  | .ok value => pure value
  | .error error => fail error

def observe (view : State → α) : Direct α := do return view (← get).state

def modify (change : State → State) : Direct Unit :=
  modifyThe Tape fun tape => { tape with state := change tape.state }

def edit (step : Edit α) : Direct α := do
  let (outcome, drawing) := step (← get).state.drawing
  modify fun state => { state with drawing }
  ofResult outcome

def showPrompt (prompt : String) : Direct Unit :=
  if prompt.isEmpty then pure ()
  else modify fun state => { state with drawing := state.drawing.writeLog prompt .prompt }

/-- Makes a request and takes the next response from the tape. -/
def take (wanted : Request) : Direct Response := fun tape =>
  let asked := { tape with requests := tape.requests ++ [wanted] }
  match tape.responses with
  | [] => (.error .unanswered, asked)
  | response :: rest => (.ok response, { asked with responses := rest })

def request (wanted : Request) : Direct Value := do
  showPrompt wanted.prompt
  let response ← take wanted
  ofResult (response.settlement wanted.kind)

/-- Evaluates with other variables; those of the caller are back however it ends. -/
def within (frame : Bindings Value) (body : Direct α) : Direct α := fun tape =>
  let (outcome, after) := body { tape with state := { tape.state with frame } }
  (outcome, { after with state := { after.state with frame := tape.state.frame } })

def mapAll (run : α → Direct β) : List α → Direct (List β)
  | [] => pure []
  | x :: rest => do
    let result ← run x
    let results ← mapAll run rest
    return result :: results

end Direct

namespace Run

/-- Plays a run with the responses of a tape. -/
def playback : Run α → List Response → List Request → Except Stop α × Tape
  | .done (.ok value) state, responses, requests => (.ok value, ⟨state, responses, requests⟩)
  | .done (.error reason) state, responses, requests =>
      (.error (.halted reason), ⟨state, responses, requests⟩)
  | .waiting request state _, [], requests =>
      (.error .unanswered, ⟨state, [], requests ++ [request]⟩)
  | .waiting request _ resume, response :: rest, requests =>
      (resume (response.settlement request.kind)).playback rest (requests ++ [request])

theorem playback_bind (run : Run α) (next : α → State → Run β) (responses : List Response)
    (requests : List Request) :
    (run.bind next).playback responses requests =
      match run.playback responses requests with
      | (.ok value, tape) => (next value tape.state).playback tape.responses tape.requests
      | (.error stop, tape) => (.error stop, tape) := by
  induction run generalizing responses requests with
  | done outcome state => cases outcome <;> rfl
  | waiting request state resume ih =>
      cases responses with
      | nil => rfl
      | cons response rest => exact ih _ rest _

theorem playback_mapState (run : Run α) (change : State → State) (responses : List Response)
    (requests : List Request) :
    (run.mapState change).playback responses requests =
      let (outcome, tape) := run.playback responses requests
      (outcome, { tape with state := change tape.state }) := by
  induction run generalizing responses requests with
  | done outcome state => cases outcome <;> rfl
  | waiting request state resume ih =>
      cases responses with
      | nil => rfl
      | cons response rest => exact ih _ rest _

/-- The requests that were made before have no influence. -/
theorem playback_requests (run : Run α) (responses : List Response) (requests : List Request) :
    run.playback responses requests =
      let (outcome, tape) := run.playback responses []
      (outcome, { tape with requests := requests ++ tape.requests }) := by
  induction run generalizing responses requests with
  | done outcome state => cases outcome <;> simp [playback]
  | waiting request state resume ih =>
      cases responses with
      | nil => rfl
      | cons response rest =>
          simp only [playback, List.nil_append]
          rw [ih _ rest (requests ++ [request]), ih _ rest [request]]
          simp only [List.append_assoc]

end Run

theorem Comp.playback_bind (first : Comp α) (next : α → Comp β) (state : State)
    (responses : List Response) (requests : List Request) :
    ((first >>= next) state).playback responses requests =
      match (first state).playback responses requests with
      | (.ok value, tape) => (next value tape.state).playback tape.responses tape.requests
      | (.error stop, tape) => (.error stop, tape) := by
  rw [bind_apply]
  exact (first state).playback_bind next responses requests

namespace Direct

/-- A computation in one go that does what the runs of another computation do. -/
def Replays (direct : Direct α) (comp : Comp α) : Prop :=
  ∀ tape : Tape, direct tape = (comp tape.state).playback tape.responses tape.requests

theorem replays_pure (value : α) : Replays (pure value) (pure value) := fun _ => rfl

theorem replays_halt (reason : Halt) : Replays (halt reason : Direct α) (Comp.halt reason) :=
  fun _ => rfl

theorem replays_fail (error : Error) : Replays (fail error : Direct α) (Comp.fail error) :=
  fun _ => rfl

theorem replays_ofExcept (ending : Except Halt α) :
    Replays (ofExcept ending) (Comp.ofExcept ending) := by
  cases ending <;> exact fun _ => rfl

theorem replays_ofResult (result : Except Error α) :
    Replays (ofResult result) (Comp.ofResult result) := by
  cases result <;> exact fun _ => rfl

theorem replays_observe (view : State → α) : Replays (observe view) (Comp.observe view) :=
  fun _ => rfl

theorem replays_modify (change : State → State) : Replays (modify change) (Comp.modify change) :=
  fun _ => rfl

theorem replays_edit (step : Edit α) : Replays (edit step) (Comp.edit step) := by
  intro tape
  unfold Comp.edit
  change (match step tape.state.drawing with
    | (outcome, drawing) => (modify (fun state => { state with drawing }) >>=
      fun _ => ofResult outcome) tape) = _
  rcases step tape.state.drawing with ⟨_ | _, drawing⟩ <;> rfl

theorem showPrompt_apply (prompt : String) (tape : Tape) :
    showPrompt prompt tape =
      (.ok (), { tape with
        state := if prompt.isEmpty then tape.state
          else { tape.state with drawing := tape.state.drawing.writeLog prompt .prompt } }) := by
  unfold showPrompt
  cases prompt.isEmpty <;> rfl

theorem replays_request (wanted : Request) : Replays (request wanted) (Comp.request wanted) := by
  rintro ⟨state, responses, requests⟩
  unfold request Comp.request
  rw [bind_apply, showPrompt_apply]
  simp only [bind_apply, take]
  cases responses with
  | nil => rfl
  | cons response rest =>
      simp only [Run.playback]
      cases response.settlement wanted.kind <;> rfl

theorem Replays.bind {first : Direct α} {comp : Comp α} {next : α → Direct β}
    {following : α → Comp β} (h : Replays first comp)
    (hnext : ∀ value, Replays (next value) (following value)) :
    Replays (first >>= next) (comp >>= following) := by
  intro tape
  rw [bind_apply, h tape, Comp.playback_bind]
  rcases (comp tape.state).playback tape.responses tape.requests with ⟨_ | value, after⟩
  · rfl
  · exact hnext value after

theorem Replays.within {body : Direct α} {comp : Comp α} (h : Replays body comp)
    (frame : Bindings Value) : Replays (within frame body) (Comp.within frame comp) := by
  intro tape
  refine Eq.trans ?_ (Run.playback_mapState (comp { tape.state with frame }) _ _ _).symm
  unfold Direct.within
  rw [h { tape with state := { tape.state with frame } }]

theorem replays_mapAll {run : α → Direct β} {comp : α → Comp β} {items : List α}
    (h : ∀ item ∈ items, Replays (run item) (comp item)) :
    Replays (mapAll run items) (Comp.mapAll comp items) := by
  induction items with
  | nil => exact replays_pure []
  | cons item rest ih =>
      refine (h item (by simp)).bind fun result => ?_
      refine Replays.bind (ih fun other hother => h other (by simp [hother])) fun results => ?_
      exact replays_pure _

end Direct

end DraftLisp

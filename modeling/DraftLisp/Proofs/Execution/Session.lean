import DraftLisp.Proofs.Execution.Dialogue

/-!
Sessions: scripts that an interpreter runs one after the other. Each is carried on as far as its
host likes and is then left, whether it has ended or not.
-/

namespace DraftLisp

def Execution.play (execution : Execution) : Move → Execution
  | .step | .await => execution.poll
  | .answer raw => (execution.answer raw).2
  | .abandon => execution.abandon.2
  | .broker action => execution.onBroker fun broker => (broker.act action).2

/-- A script and what its host does before it leaves the script. -/
structure Batch where
  source : String
  /-- Whether the script reports its outcome to the log and its request is given up when it is left.
  Otherwise its host receives the outcome, and the request stays open. -/
  reported : Bool
  moves : List Move

namespace Batch

def start (batch : Batch) (interpreter : Interpreter) : Execution :=
  if batch.reported then .start interpreter batch.source
  else ⟨interpreter, .ready (interpreter.evaluation batch.source)⟩

def run (batch : Batch) (interpreter : Interpreter) : Execution :=
  batch.moves.foldl Execution.play (batch.start interpreter)

def leave (batch : Batch) (execution : Execution) : Interpreter :=
  if batch.reported then execution.close else execution.interpreter

end Batch

def Interpreter.afterBatches (interpreter : Interpreter) (batches : List Batch) : Interpreter :=
  batches.foldl (fun interpreter batch => batch.leave (batch.run interpreter)) interpreter

/-- What is to hold of a session, and of the values that scripts receive and return. -/
structure Invariant where
  session : Session → Prop
  value : Value → Prop

def Invariant.Fits (I : Invariant) (outcome : Except ε Value) : Prop :=
  ∀ value, outcome = .ok value → I.value value

/-- An invariant holds wherever a run waits or ends, as long as it receives fitting values. -/
def Run.Throughout (I : Invariant) : Run Value → Prop
  | .done outcome state => I.session state.toSession ∧ I.Fits outcome
  | .waiting _ state resume =>
      I.session state.toSession ∧ ∀ outcome, I.Fits outcome → (resume outcome).Throughout I

theorem Run.Always.throughout {I : Invariant} {run : Run Value}
    (h : run.Always fun state => I.session state.toSession) (hvalue : ∀ value, I.value value) :
    run.Throughout I := by
  induction run with
  | done outcome state => exact ⟨h, fun value _ => hvalue value⟩
  | waiting request state resume ih =>
      exact ⟨h.1, fun outcome _ => ih outcome (h.2 outcome)⟩

namespace Invariant

variable {I : Invariant}

/-- The invariant holds of all that a user can answer. -/
structure Accepting (I : Invariant) : Prop where
  nil : I.value .nil
  answered : ∀ kind raw, I.value (Answer.value kind raw)

/-- All that an interpreter does keeps the invariant. -/
structure Kept (I : Invariant) : Prop extends I.Accepting where
  empty : I.session .empty
  logged : ∀ {session : Session} (text style), I.session session →
    I.session { session with drawing := session.drawing.writeLog text style }
  evaluated : ∀ (interpreter : Interpreter) (source : String), I.session interpreter.session →
    (interpreter.evaluation source { interpreter.session with frame := [] }).Throughout I

theorem fits_ok {ε : Type} {value : Value} (h : I.value value) :
    I.Fits (.ok value : Except ε Value) := by
  rintro _ ⟨⟩
  exact h

theorem fits_error {ε : Type} (error : ε) : I.Fits (.error error) := by
  rintro _ ⟨⟩

theorem throughout_report (hI : I.Kept) (echo : Bool) {run : Run Value} (h : run.Throughout I) :
    (Interpreter.report echo run).Throughout I := by
  induction run with
  | done outcome state =>
      obtain ⟨hsession, hfits⟩ := h
      rcases outcome with (error | _ | _) | value
      · exact ⟨hI.logged _ _ hsession, fits_ok hI.nil⟩
      · exact ⟨hsession, fits_error _⟩
      · exact ⟨hsession, fits_error _⟩
      · refine ⟨?_, hfits⟩
        cases echo
        · exact hsession
        · exact hI.logged _ _ hsession
  | waiting request state resume ih =>
      exact ⟨h.1, fun outcome houtcome => ih outcome (h.2 outcome houtcome)⟩

/-- The invariant holds of the session and of every value that waits to be collected. -/
structure Holds (I : Invariant) (interpreter : Interpreter) : Prop where
  session : I.session interpreter.session
  settled : ∀ ticket outcome, interpreter.broker.settled.lookup ticket = some outcome →
    I.Fits outcome

/-- However a task goes on, it keeps the invariant. -/
def Binds (I : Invariant) (session : Session) : Task → Prop
  | .ready body => (body { session with frame := [] }).Throughout I
  | .waiting _ resume => ∀ outcome, I.Fits outcome → (resume outcome).Throughout I
  | .ended outcome => I.Fits outcome

structure HoldsOf (I : Invariant) (execution : Execution) : Prop
    extends I.Holds execution.interpreter where
  task : I.Binds execution.interpreter.session execution.task

theorem fits_of_decides (hI : I.Accepting) {action : Broker.Action} {kind : InputKind}
    {outcome : Settlement} (h : action.decides? kind = some outcome) : I.Fits outcome := by
  cases action with
  | request wanted =>
      cases h
      exact fits_error _
  | resolve raw =>
      cases h
      rw [← Answer.value_eq_getD]
      exact fits_ok (hI.answered kind raw)
  | cancel =>
      cases h
      exact fits_ok hI.nil
  | poll _ => cases h
  | pending => cases h

theorem Holds.act (hI : I.Accepting) {interpreter : Interpreter} (h : I.Holds interpreter)
    (action : Broker.Action) :
    I.Holds { interpreter with broker := (interpreter.broker.act action).2 } where
  session := h.session
  settled := by
    intro ticket outcome hlookup
    rcases Broker.lookup_act_iff.mp hlookup with ⟨wanted, -, hdecides⟩ | ⟨hearlier, -⟩
    · exact fits_of_decides hI hdecides
    · exact h.settled ticket outcome hearlier

theorem HoldsOf.act (hI : I.Accepting) {execution : Execution} (h : I.HoldsOf execution)
    (action : Broker.Action) :
    I.HoldsOf (execution.onBroker fun broker => (broker.act action).2) :=
  ⟨h.toHolds.act hI action, h.task⟩

theorem holdsOf_advance (hI : I.Accepting) {interpreter : Interpreter} (h : I.Holds interpreter)
    {run : Run Value} (hrun : run.Throughout I) :
    I.HoldsOf ⟨(interpreter.advance run).1, (interpreter.advance run).2⟩ := by
  cases run with
  | done outcome state => exact ⟨⟨hrun.1, h.settled⟩, hrun.2⟩
  | waiting request state resume =>
      have hopened := (h.act hI (.request request)).settled
      exact ⟨⟨hrun.1, hopened⟩, hrun.2⟩

theorem HoldsOf.poll (hI : I.Accepting) {execution : Execution} (h : I.HoldsOf execution) :
    I.HoldsOf execution.poll := by
  obtain ⟨interpreter, task⟩ := execution
  obtain ⟨hholds, htask⟩ := h
  cases task with
  | ready body => exact holdsOf_advance hI hholds htask
  | ended outcome => exact ⟨hholds, htask⟩
  | waiting ticket resume =>
      cases hpoll : interpreter.broker.poll ticket with
      | none =>
          have hsame : Execution.poll ⟨interpreter, .waiting ticket resume⟩ =
              ⟨interpreter, .waiting ticket resume⟩ := by
            simp [Execution.poll, Interpreter.poll, hpoll]
          rw [hsame]
          exact ⟨hholds, htask⟩
      | some delivered =>
          obtain ⟨outcome, broker⟩ := delivered
          have hfits : I.Fits outcome := by
            refine hholds.settled ticket outcome ?_
            obtain ⟨_, hlookup, heq⟩ := Option.map_eq_some_iff.mp hpoll
            cases heq
            exact hlookup
          have hcollected : I.Holds { interpreter with broker } := by
            have hact := hholds.act hI (.poll ticket)
            simpa only [Broker.act, hpoll] using hact
          have hnext : Execution.poll ⟨interpreter, .waiting ticket resume⟩ =
              ⟨({ interpreter with broker }.advance (resume outcome)).1,
                ({ interpreter with broker }.advance (resume outcome)).2⟩ := by
            simp [Execution.poll, Interpreter.poll, hpoll]
          rw [hnext]
          exact holdsOf_advance hI hcollected (htask outcome hfits)

theorem HoldsOf.play (hI : I.Accepting) {execution : Execution} (h : I.HoldsOf execution)
    (move : Move) : I.HoldsOf (execution.play move) := by
  cases move with
  | step => exact h.poll hI
  | await => exact h.poll hI
  | answer raw => exact (h.act hI (.resolve raw)).poll hI
  | abandon => exact (h.act hI .cancel).poll hI
  | broker action => exact h.act hI action

theorem holdsOf_start (hI : I.Kept) {interpreter : Interpreter} (h : I.Holds interpreter)
    (batch : Batch) : I.HoldsOf (batch.start interpreter) := by
  have hevaluated := hI.evaluated interpreter batch.source h.session
  unfold Batch.start
  split
  · exact ⟨h, throughout_report hI _ hevaluated⟩
  · exact ⟨h, hevaluated⟩

theorem HoldsOf.playAll (hI : I.Accepting) {execution : Execution} (h : I.HoldsOf execution)
    (moves : List Move) : I.HoldsOf (moves.foldl Execution.play execution) := by
  induction moves using List.reverseRecOn with
  | nil => exact h
  | append_singleton moves move ih =>
      rw [List.foldl_append]
      exact ih.play hI move

theorem holdsOf_run (hI : I.Kept) {interpreter : Interpreter} (h : I.Holds interpreter)
    (batch : Batch) : I.HoldsOf (batch.run interpreter) :=
  (holdsOf_start hI h batch).playAll hI.toAccepting batch.moves

theorem holds_leave (hI : I.Kept) {execution : Execution} (h : I.HoldsOf execution)
    (batch : Batch) : I.Holds (batch.leave execution) := by
  unfold Batch.leave
  split
  · unfold Execution.close
    split
    · exact h.toHolds
    · exact (h.act hI.toAccepting .cancel).toHolds
  · exact h.toHolds

theorem holds_afterBatches (hI : I.Kept) (config : Config) (batches : List Batch) :
    I.Holds ((Interpreter.new config).afterBatches batches) := by
  unfold Interpreter.afterBatches
  induction batches using List.reverseRecOn with
  | nil =>
      refine ⟨hI.empty, ?_⟩
      rintro ticket outcome ⟨⟩
  | append_singleton batches batch ih =>
      rw [List.foldl_append]
      exact holds_leave hI (holdsOf_run hI ih batch) batch

/-- The invariant holds at every point of every session. -/
theorem holdsOf_session (hI : I.Kept) (config : Config) (batches : List Batch) (last : Batch) :
    I.HoldsOf (last.run ((Interpreter.new config).afterBatches batches)) :=
  holdsOf_run hI (holds_afterBatches hI config batches) last

end Invariant

end DraftLisp

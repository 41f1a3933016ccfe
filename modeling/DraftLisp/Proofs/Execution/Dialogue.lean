import DraftLisp.Proofs.Broker.History
import DraftLisp.Proofs.Execution.Script

namespace DraftLisp

inductive Move where
  | step
  | answer (raw : Json)
  | abandon
  | await
  | broker (action : Broker.Action)

def Move.polls : Move → Bool
  | .broker _ => false
  | _ => true

structure Dialogue where
  execution : Execution
  /-- The tickets of the requests that the script has not made. -/
  tickets : List Ticket
  /-- The outcomes that the script has received, oldest first. -/
  received : List Settlement

namespace Dialogue

/-- Before the first move. Every ticket that was issued before belongs to others. -/
def start (interpreter : Interpreter) (source : String) : Dialogue :=
  ⟨.start interpreter source, List.range interpreter.broker.nextTicket, []⟩

abbrev broker (dialogue : Dialogue) : Broker := dialogue.execution.interpreter.broker

/-- What the next poll hands to the script. -/
def delivery? (execution : Execution) : Option Settlement :=
  match execution.task with
  | .waiting ticket _ => execution.interpreter.broker.settled.lookup ticket
  | _ => none

def poll (dialogue : Dialogue) : Dialogue :=
  { dialogue with
    execution := dialogue.execution.poll
    received := dialogue.received ++ (delivery? dialogue.execution).toList }

/-- The host uses the broker. It can poll the requests of others, but not those of the script. -/
def use (dialogue : Dialogue) (action : Broker.Action) : Dialogue :=
  let used := dialogue.execution.onBroker fun broker => (broker.act action).2
  match action with
  | .request _ =>
      { dialogue with execution := used, tickets := dialogue.broker.nextTicket :: dialogue.tickets }
  | .poll ticket =>
      if ticket ∈ dialogue.tickets then { dialogue with execution := used } else dialogue
  | _ => { dialogue with execution := used }

def move (dialogue : Dialogue) : Move → Option Step × Dialogue
  | .step => (some dialogue.execution.step.1, dialogue.poll)
  | .answer raw => (some (dialogue.execution.answer raw).1, (dialogue.use (.resolve raw)).poll)
  | .abandon => (some dialogue.execution.abandon.1, (dialogue.use .cancel).poll)
  | .await => (none, dialogue.poll)
  | .broker action => (none, dialogue.use action)

def after (interpreter : Interpreter) (source : String) (moves : List Move) : Dialogue :=
  moves.foldl (fun dialogue move => (dialogue.move move).2) (start interpreter source)

theorem after_concat (interpreter : Interpreter) (source : String) (moves : List Move)
    (last : Move) :
    after interpreter source (moves ++ [last]) =
      ((after interpreter source moves).move last).2 := by
  simp [after]

/-- The host's use of the broker, if it is allowed, changes nothing else. -/
theorem use_eq (dialogue : Dialogue) (action : Broker.Action) :
    dialogue.use action = dialogue ∨
      ∃ tickets, (∀ ticket ∈ tickets, ticket ∈ dialogue.tickets ∨
          action.isRequest ∧ ticket = dialogue.broker.nextTicket) ∧
        (∀ ticket, action = .poll ticket → ticket ∈ dialogue.tickets) ∧
        dialogue.use action =
          ⟨dialogue.execution.onBroker fun broker => (broker.act action).2, tickets,
            dialogue.received⟩ := by
  cases action with
  | request wanted =>
      refine .inr ⟨dialogue.broker.nextTicket :: dialogue.tickets, ?_, by simp, rfl⟩
      rintro ticket (_ | ⟨_, hticket⟩)
      · exact .inr ⟨rfl, rfl⟩
      · exact .inl hticket
  | poll ticket =>
      by_cases h : ticket ∈ dialogue.tickets
      · refine .inr ⟨dialogue.tickets, fun _ => .inl, ?_, if_pos h⟩
        rintro _ ⟨⟩
        exact h
      · exact .inl (if_neg h)
  | resolve raw => exact .inr ⟨dialogue.tickets, fun _ => .inl, by simp, rfl⟩
  | cancel => exact .inr ⟨dialogue.tickets, fun _ => .inl, by simp, rfl⟩
  | pending => exact .inr ⟨dialogue.tickets, fun _ => .inl, by simp, rfl⟩

/-- A host that goes on with the script has at most answered or cancelled before. -/
theorem move_eq_poll (dialogue : Dialogue) {move : Move} (hpolls : move.polls) :
    (dialogue.move move).2 = dialogue.poll ∨
      ∃ action, action.isRequest = false ∧ (dialogue.move move).2 = (dialogue.use action).poll := by
  cases move with
  | step => exact .inl rfl
  | answer raw => exact .inr ⟨.resolve raw, rfl, rfl⟩
  | abandon => exact .inr ⟨.cancel, rfl, rfl⟩
  | await => exact .inl rfl
  | broker action => cases hpolls

theorem task_use (dialogue : Dialogue) (action : Broker.Action) :
    (dialogue.use action).execution.task = dialogue.execution.task := by
  rcases use_eq dialogue action with heq | ⟨tickets, -, -, heq⟩
  · rw [heq]
  · rw [heq]
    rfl

theorem received_use (dialogue : Dialogue) (action : Broker.Action) :
    (dialogue.use action).received = dialogue.received := by
  rcases use_eq dialogue action with heq | ⟨tickets, -, -, heq⟩
  · rw [heq]
  · rw [heq]

variable {dialogue : Dialogue}

theorem poll_of_ready {body : Comp Value} (htask : dialogue.execution.task = .ready body)
    (hreceived : dialogue.received = []) :
    let interpreter := dialogue.execution.interpreter
    let next := interpreter.advance (body { interpreter.session with frame := [] })
    dialogue.poll = ⟨⟨next.1, next.2⟩, dialogue.tickets, []⟩ := by
  simp [Dialogue.poll, Execution.poll, Interpreter.poll, delivery?, htask, hreceived]

theorem poll_of_open {ticket : Ticket} {resume : Settlement → Run Value}
    (htask : dialogue.execution.task = .waiting ticket resume)
    (hlookup : dialogue.broker.settled.lookup ticket = none) : dialogue.poll = dialogue := by
  obtain ⟨⟨interpreter, task⟩, tickets, received⟩ := dialogue
  obtain rfl : task = _ := htask
  have hlookup : interpreter.broker.settled.lookup ticket = none := hlookup
  simp [Dialogue.poll, Execution.poll, Interpreter.poll, delivery?, Broker.poll, hlookup]

theorem poll_of_decided {ticket : Ticket} {resume : Settlement → Run Value} {outcome : Settlement}
    (htask : dialogue.execution.task = .waiting ticket resume)
    (hlookup : dialogue.broker.settled.lookup ticket = some outcome) :
    ∃ broker, dialogue.broker.poll ticket = some (outcome, broker) ∧
      let next := { dialogue.execution.interpreter with broker }.advance (resume outcome)
      dialogue.poll =
        ⟨⟨next.1, next.2⟩, dialogue.tickets, dialogue.received ++ [outcome]⟩ := by
  obtain ⟨⟨interpreter, task⟩, tickets, received⟩ := dialogue
  obtain rfl : task = _ := htask
  have hlookup : interpreter.broker.settled.lookup ticket = some outcome := hlookup
  simp [Dialogue.poll, Execution.poll, Interpreter.poll, delivery?, Broker.poll, hlookup]

theorem poll_of_ended {outcome : Except Halt Value}
    (htask : dialogue.execution.task = .ended outcome) : dialogue.poll = dialogue := by
  obtain ⟨⟨interpreter, task⟩, tickets, received⟩ := dialogue
  obtain rfl : task = _ := htask
  simp [Dialogue.poll, Execution.poll, Interpreter.poll, delivery?]

theorem lookup_of_received_poll {outcome : Settlement}
    (h : dialogue.poll.received = dialogue.received ++ [outcome]) :
    ∃ ticket resume, dialogue.execution.task = .waiting ticket resume ∧
      dialogue.broker.settled.lookup ticket = some outcome := by
  have hdelivery : (delivery? dialogue.execution).toList = [outcome] := List.append_cancel_left h
  obtain ⟨_, hsome⟩ : ∃ other, delivery? dialogue.execution = some other := by
    cases hnone : delivery? dialogue.execution <;> simp [hnone] at hdelivery ⊢
  obtain rfl : _ = outcome := by simpa [hsome] using hdelivery
  unfold delivery? at hsome
  split at hsome
  · rename_i ticket resume htask
    exact ⟨ticket, resume, htask, hsome⟩
  · cases hsome

theorem reported (dialogue : Dialogue) {move : Move} {report : Step}
    (h : (dialogue.move move).1 = some report) :
    move.polls ∧ report = (dialogue.move move).2.execution.standing := by
  cases move with
  | await => cases h
  | broker action => cases h
  | _ =>
      cases h
      exact ⟨rfl, rfl⟩

end Dialogue

end DraftLisp

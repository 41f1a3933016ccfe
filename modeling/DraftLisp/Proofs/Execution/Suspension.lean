import DraftLisp.Proofs.Execution.Dialogue
import DraftLisp.Proofs.Execution.Waiting

namespace DraftLisp

namespace Broker

def Holds (broker : Broker) (ticket : Ticket) (request : Request) : Prop :=
  broker.slot = some (ticket, request) ∨ ∃ outcome, broker.settled.lookup ticket = some outcome

theorem Holds.act {broker : Broker} {ticket : Ticket} {request : Request}
    (h : broker.Holds ticket request) {action : Action} (hpoll : action ≠ .poll ticket) :
    (broker.act action).2.Holds ticket request := by
  rcases h with hslot | ⟨outcome, hlookup⟩
  · cases hdecides : action.decides? request.kind with
    | none => exact .inl (slot_act_iff.mpr (.inr ⟨hslot, hdecides⟩))
    | some outcome =>
        exact .inr ⟨outcome, lookup_act_iff.mpr (.inl ⟨request, hslot, hdecides⟩)⟩
  · exact .inr ⟨outcome, lookup_act_iff.mpr (.inr ⟨hlookup, hpoll⟩)⟩

end Broker

namespace Dialogue

/-- The script is where the outcomes that it has received lead; if it waits, its request is open or
decided, and the host has no access to it. -/
inductive Follows (run : Run Value) (dialogue : Dialogue) : Prop
  | ready {body : Comp Value} (htask : dialogue.execution.task = .ready body)
      (hreceived : dialogue.received = [])
      (hbody : body { dialogue.execution.interpreter.session with frame := [] } = run)
  | waiting {ticket : Ticket} {request : Request} {state : State} {resume : Settlement → Run Value}
      (htask : dialogue.execution.task = .waiting ticket resume)
      (hrun : run.follow dialogue.received = .waiting request state resume)
      (hholds : dialogue.broker.Holds ticket request)
      (hlt : ticket < dialogue.broker.nextTicket) (hown : ticket ∉ dialogue.tickets)
  | ended {outcome : Except Halt Value} {state : State}
      (htask : dialogue.execution.task = .ended outcome)
      (hrun : run.follow dialogue.received = .done outcome state)

structure Sound (run : Run Value) (dialogue : Dialogue) : Prop where
  tickets_lt : ∀ ticket ∈ dialogue.tickets, ticket < dialogue.broker.nextTicket
  follows : Follows run dialogue

inductive Polled (run : Run Value) (dialogue : Dialogue) : Prop
  | waiting {ticket : Ticket} {request : Request} {state : State} {resume : Settlement → Run Value}
      (htask : dialogue.execution.task = .waiting ticket resume)
      (hrun : run.follow dialogue.received = .waiting request state resume)
      (hslot : dialogue.broker.slot = some (ticket, request))
  | ended {outcome : Except Halt Value} (htask : dialogue.execution.task = .ended outcome)

variable {run : Run Value} {dialogue : Dialogue}

theorem sound_start (interpreter : Interpreter) (source : String) :
    Sound (interpreter.script source) (start interpreter source) where
  tickets_lt _ h := List.mem_range.mp h
  follows := .ready rfl rfl rfl

theorem Sound.use (h : Sound run dialogue) (action : Broker.Action) :
    Sound run (dialogue.use action) := by
  rcases use_eq dialogue action with heq | ⟨tickets, htickets, hpoll, heq⟩
  · rw [heq]
    exact h
  · rw [heq]
    have hnext := Broker.nextTicket_act dialogue.broker action
    constructor
    · intro ticket hticket
      change ticket < (dialogue.broker.act action).2.nextTicket
      rcases htickets ticket hticket with hold | ⟨hrequest, rfl⟩
      · rw [hnext]
        exact Nat.lt_add_right _ (h.tickets_lt ticket hold)
      · rw [hnext, if_pos hrequest]
        exact Nat.lt_succ_self _
    · cases h.follows with
      | ready htask hreceived hbody => exact .ready htask hreceived hbody
      | waiting htask hrun hholds hlt hown =>
          refine .waiting htask hrun (hholds.act ?_) ?_ ?_
          -- The ticket is none of the host's, so that the host cannot collect the outcome.
          · exact fun hother => hown (hpoll _ hother)
          · change _ < (dialogue.broker.act action).2.nextTicket
            rw [hnext]
            exact Nat.lt_add_right _ hlt
          · intro hmem
            rcases htickets _ hmem with hold | ⟨-, rfl⟩
            · exact hown hold
            · exact Nat.lt_irrefl _ hlt
      | ended htask hrun => exact .ended htask hrun

/-- A run that goes on opens a request of its own, or it ends. -/
theorem sound_advance {interpreter : Interpreter} {tickets : List Ticket}
    {received : List Settlement} {rest : Run Value}
    (hlt : ∀ ticket ∈ tickets, ticket < interpreter.broker.nextTicket)
    (hrest : run.follow received = rest) :
    Sound run ⟨⟨(interpreter.advance rest).1, (interpreter.advance rest).2⟩, tickets, received⟩ ∧
      Polled run
        ⟨⟨(interpreter.advance rest).1, (interpreter.advance rest).2⟩, tickets, received⟩ := by
  cases rest with
  | done outcome state =>
      exact ⟨⟨hlt, .ended rfl hrest⟩, .ended rfl⟩
  | waiting request state resume =>
      refine ⟨⟨?_, ?_⟩, .waiting rfl hrest rfl⟩
      · exact fun ticket hticket => Nat.lt_succ_of_lt (hlt ticket hticket)
      · refine .waiting rfl hrest (.inl rfl) (Nat.lt_succ_self _) ?_
        exact fun hmem => Nat.lt_irrefl _ (hlt _ hmem)

theorem Sound.poll (h : Sound run dialogue) :
    Sound run dialogue.poll ∧ Polled run dialogue.poll := by
  cases h.follows with
  | ready htask hreceived hbody =>
      rw [poll_of_ready htask hreceived]
      exact sound_advance h.tickets_lt hbody.symm
  | @waiting ticket request state resume htask hrun hholds hlt hown =>
      cases hlookup : dialogue.broker.settled.lookup ticket with
      | none =>
          rw [poll_of_open htask hlookup]
          refine ⟨h, .waiting htask hrun (hholds.resolve_right ?_)⟩
          rintro ⟨outcome, houtcome⟩
          simp [hlookup] at houtcome
      | some outcome =>
          obtain ⟨broker, hpoll, heq⟩ := poll_of_decided htask hlookup
          rw [heq]
          refine sound_advance ?_ (Run.follow_concat_of_waiting hrun outcome)
          have hnext : broker.nextTicket = dialogue.broker.nextTicket := by
            obtain ⟨_, -, hbroker⟩ := Option.map_eq_some_iff.mp hpoll
            cases hbroker
            rfl
          rw [hnext]
          exact h.tickets_lt
  | ended htask hrun =>
      rw [poll_of_ended htask]
      exact ⟨h, .ended htask⟩

theorem Sound.move (h : Sound run dialogue) (move : Move) :
    Sound run (dialogue.move move).2 := by
  cases move with
  | step => exact h.poll.1
  | answer raw => exact (h.use _).poll.1
  | abandon => exact (h.use _).poll.1
  | await => exact h.poll.1
  | broker action => exact h.use action

theorem Sound.polled (h : Sound run dialogue) {move : Move} (hpolls : move.polls) :
    Polled run (dialogue.move move).2 := by
  cases move with
  | step => exact h.poll.2
  | answer raw => exact (h.use _).poll.2
  | abandon => exact (h.use _).poll.2
  | await => exact h.poll.2
  | broker action => cases hpolls

theorem sound_after (interpreter : Interpreter) (source : String) (moves : List Move) :
    Sound (interpreter.script source) (after interpreter source moves) := by
  induction moves using List.reverseRecOn with
  | nil => exact sound_start interpreter source
  | append_singleton moves last ih =>
      rw [after_concat]
      exact ih.move last

theorem error_of_lookup_use {action : Broker.Action} {ticket : Ticket} {error : Error}
    (h : (dialogue.use action).broker.settled.lookup ticket = some (.error error)) :
    dialogue.broker.settled.lookup ticket = some (.error error) ∨
      ∃ wanted own, action = .request wanted ∧ dialogue.broker.slot = some (ticket, own) ∧
        error = .inputOrphaned own.kind.name := by
  rcases use_eq dialogue action with heq | ⟨tickets, -, -, heq⟩
  · rw [heq] at h
    exact .inl h
  · rw [heq] at h
    rcases Broker.lookup_act_iff.mp h with ⟨own, hslot, hdecides⟩ | ⟨hlookup, -⟩
    · cases action with
      | request wanted =>
          obtain rfl : Error.inputOrphaned own.kind.name = error := by
            simpa [Broker.Action.decides?] using hdecides
          exact .inr ⟨wanted, own, rfl, hslot, rfl⟩
      | poll other => simp [Broker.Action.decides?] at hdecides
      | resolve raw => simp [Broker.Action.decides?] at hdecides
      | cancel => simp [Broker.Action.decides?] at hdecides
      | pending => simp [Broker.Action.decides?] at hdecides
    · exact .inl hlookup

theorem Sound.request_of_slot (h : Sound run dialogue) {ticket : Ticket}
    {resume : Settlement → Run Value} (htask : dialogue.execution.task = .waiting ticket resume)
    {own : Request} (hslot : dialogue.broker.slot = some (ticket, own)) :
    ∃ state, run.follow dialogue.received = .waiting own state resume := by
  cases h.follows with
  | ready hother => simp [htask] at hother
  | ended hother => simp [htask] at hother
  | waiting hother hrun hholds =>
      rw [htask] at hother
      cases hother
      rcases hholds with hown | ⟨outcome, hlookup⟩
      · rw [hslot] at hown
        cases hown
        exact ⟨_, hrun⟩
      · simp [Broker.lookup_eq_none_of_slot hslot] at hlookup

/-- An error is ready for a waiting script only if the host has opened a request since it waits. -/
theorem orphaned_of_lookup {interpreter : Interpreter} {source : String} {moves : List Move}
    {ticket : Ticket} {resume : Settlement → Run Value} {error : Error}
    (htask : (after interpreter source moves).execution.task = .waiting ticket resume)
    (hlookup : (after interpreter source moves).broker.settled.lookup ticket =
      some (.error error)) :
    ∃ earlier wanted later own state,
      moves = earlier ++ .broker (.request wanted) :: later ∧
        (after interpreter source earlier).execution.task = .waiting ticket resume ∧
        (interpreter.script source).follow (after interpreter source moves).received =
          .waiting own state resume ∧
        error = .inputOrphaned own.kind.name := by
  induction moves using List.reverseRecOn with
  | nil => cases htask
  | append_singleton moves last ih =>
      have hsound := sound_after interpreter source moves
      rw [after_concat] at htask hlookup ⊢
      cases hpolls : last.polls with
      | true =>
          -- A request that is open after the move has no outcome yet.
          cases hsound.polled hpolls with
          | waiting hother hrun hslot =>
              rw [htask] at hother
              cases hother
              simp [Broker.lookup_eq_none_of_slot hslot] at hlookup
          | ended hother => simp [htask] at hother
      | false =>
          cases last with
          | broker action =>
              change ((after interpreter source moves).use action).execution.task = _
                at htask
              change ∃ earlier wanted later own state, _ ∧ _ ∧
                (interpreter.script source).follow
                  ((after interpreter source moves).use action).received = _ ∧ _
              rw [task_use] at htask
              rw [received_use]
              rcases error_of_lookup_use hlookup with hbefore | ⟨wanted, own, rfl, hslot, herror⟩
              · obtain ⟨earlier, wanted, later, own, state, hmoves, hrest⟩ := ih htask hbefore
                exact ⟨earlier, wanted, later ++ [.broker action], own, state, by simp [hmoves],
                  hrest⟩
              · obtain ⟨state, hrun⟩ := hsound.request_of_slot htask hslot
                exact ⟨moves, wanted, [], own, state, rfl, htask, hrun, herror⟩
          | _ => cases hpolls

/-- The open request is the one that the script waits for. -/
def Quiet (dialogue : Dialogue) : Prop :=
  ∀ ticket request, dialogue.broker.slot = some (ticket, request) →
    ∃ resume, dialogue.execution.task = .waiting ticket resume

theorem quiet_advance {interpreter : Interpreter} (h : interpreter.broker.slot = none)
    (rest : Run Value) (tickets : List Ticket) (received : List Settlement) :
    Quiet
      ⟨⟨(interpreter.advance rest).1, (interpreter.advance rest).2⟩, tickets, received⟩ := by
  intro ticket request hslot
  cases rest with
  | done outcome state =>
      have hslot : interpreter.broker.slot = some (ticket, request) := hslot
      simp [h] at hslot
  | waiting wanted state resume =>
      obtain ⟨rfl, rfl⟩ : interpreter.broker.nextTicket = ticket ∧ wanted = request := by
        simpa [Interpreter.advance, Broker.request] using hslot
      exact ⟨resume, rfl⟩

theorem Quiet.slot_eq_none (h : Quiet dialogue)
    (htask : ∀ ticket request resume, dialogue.broker.slot = some (ticket, request) →
      dialogue.execution.task ≠ .waiting ticket resume) : dialogue.broker.slot = none := by
  rw [Option.eq_none_iff_forall_ne_some]
  rintro ⟨ticket, request⟩ hslot
  obtain ⟨resume, hwaiting⟩ := h ticket request hslot
  exact htask ticket request resume hslot hwaiting

theorem Quiet.poll (h : Quiet dialogue) (hsound : Sound run dialogue) : Quiet dialogue.poll := by
  cases hsound.follows with
  | ready htask hreceived hbody =>
      rw [poll_of_ready htask hreceived]
      exact quiet_advance (h.slot_eq_none (by simp [htask])) _ _ _
  | @waiting ticket request state resume htask hrun hholds hlt hown =>
      cases hlookup : dialogue.broker.settled.lookup ticket with
      | none =>
          rw [poll_of_open htask hlookup]
          exact h
      | some outcome =>
          obtain ⟨broker, hpoll, heq⟩ := poll_of_decided htask hlookup
          rw [heq]
          refine quiet_advance ?_ _ _ _
          have hslot : broker.slot = dialogue.broker.slot := by
            obtain ⟨_, -, hbroker⟩ := Option.map_eq_some_iff.mp hpoll
            cases hbroker
            rfl
          -- Only this request could be open, and it is decided.
          refine hslot.trans (h.slot_eq_none ?_)
          intro other wanted next hother hwaiting
          rw [htask] at hwaiting
          cases hwaiting
          simp [Broker.lookup_eq_none_of_slot hother] at hlookup
  | ended htask hrun =>
      rw [poll_of_ended htask]
      exact h

theorem Quiet.use (h : Quiet dialogue) {action : Broker.Action}
    (hrequest : action.isRequest = false) : Quiet (dialogue.use action) := by
  intro ticket request hslot
  rw [task_use]
  rcases use_eq dialogue action with heq | ⟨tickets, -, -, heq⟩
  · rw [heq] at hslot
    exact h ticket request hslot
  · rw [heq] at hslot
    rcases Broker.slot_act_iff.mp hslot with ⟨rfl, -⟩ | ⟨hbefore, -⟩
    · cases hrequest
    · exact h ticket request hbefore

theorem quiet_after {interpreter : Interpreter} {source : String} {moves : List Move}
    (hslot : interpreter.broker.slot = none)
    (hmoves : ∀ wanted, .broker (.request wanted) ∉ moves) :
    Quiet (after interpreter source moves) := by
  induction moves using List.reverseRecOn with
  | nil =>
      intro ticket request hother
      have hother : interpreter.broker.slot = some (ticket, request) := hother
      simp [hslot] at hother
  | append_singleton moves last ih =>
      have hbefore := ih fun wanted hmem => hmoves wanted (List.mem_append_left _ hmem)
      have hsound := sound_after interpreter source moves
      rw [after_concat]
      cases hpolls : last.polls with
      | true =>
          rcases move_eq_poll (after interpreter source moves) hpolls with
            heq | ⟨action, hrequest, heq⟩
          · rw [heq]
            exact hbefore.poll hsound
          · rw [heq]
            exact (hbefore.use hrequest).poll (hsound.use action)
      | false =>
          cases last with
          | broker action =>
              refine hbefore.use ?_
              cases action with
              | request wanted => exact absurd (by simp) (hmoves wanted)
              | _ => rfl
          | _ => cases hpolls

/-- An error that the script receives was ready before the move. -/
theorem lookup_of_received_move {move : Move} {error : Error}
    (h : (dialogue.move move).2.received = dialogue.received ++ [.error error]) :
    ∃ ticket resume, dialogue.execution.task = .waiting ticket resume ∧
      dialogue.broker.settled.lookup ticket = some (.error error) := by
  cases hpolls : move.polls with
  | true =>
      rcases move_eq_poll dialogue hpolls with heq | ⟨action, hrequest, heq⟩
      · rw [heq] at h
        exact lookup_of_received_poll h
      · rw [heq, ← received_use dialogue action] at h
        obtain ⟨ticket, resume, htask, hlookup⟩ := lookup_of_received_poll h
        rw [task_use] at htask
        rcases error_of_lookup_use hlookup with hbefore | ⟨wanted, own, rfl, -⟩
        · exact ⟨ticket, resume, htask, hbefore⟩
        · cases hrequest
  | false =>
      cases move with
      | broker action =>
          have hsame : (dialogue.move (.broker action)).2.received = dialogue.received :=
            received_use dialogue action
          simp [hsame] at h
      | _ => cases hpolls

/-- What holds of a script after some moves of its host, and of the move that comes next. -/
structure Orderly (interpreter : Interpreter) (source : String) (moves : List Move)
    (move : Move) : Prop where
  /-- No step finds the script waiting without an open request. -/
  not_stalled :
    ((after interpreter source moves).move move).1 ≠ some .stalled
  /-- When the script waits after it has gone on, the open request is its own: it is what the call
  demands in which the script waits, and it is what a step reports. -/
  awaiting : ∀ ticket resume, move.polls →
    (after interpreter source (moves ++ [move])).execution.task =
        .waiting ticket resume →
      ∃ own state,
        (interpreter.script source).follow
            (after interpreter source (moves ++ [move])).received =
          .waiting own state resume ∧
        ((interpreter.script source).follow
            (after interpreter source (moves ++ [move])).received).InCall own ∧
        (after interpreter source (moves ++ [move])).broker.slot = some (ticket, own) ∧
        ∀ report, ((after interpreter source moves).move move).1 = some report →
          report = .awaiting own
  /-- Each operator that asks waits for its own kind of input, with the prompt and the base point
  that the operands of the call say. -/
  asks : ∀ name kind, (name, kind) ∈ Builtin.asked →
    ∃ operator, Builtin.find? name = some operator ∧ operator.AsksFor kind
  /-- The script receives an error only for a request that the host has replaced since the script
  waits for it. -/
  orphaned : ∀ error,
    (after interpreter source (moves ++ [move])).received =
        (after interpreter source moves).received ++ [.error error] →
      ∃ earlier wanted later ticket own state resume,
        moves = earlier ++ .broker (.request wanted) :: later ∧
        (after interpreter source earlier).execution.task = .waiting ticket resume ∧
        (after interpreter source moves).execution.task = .waiting ticket resume ∧
        (interpreter.script source).follow (after interpreter source moves).received =
          .waiting own state resume ∧
        error = .inputOrphaned own.kind.name
  /-- If nothing was open and the host opens nothing, then a request is open after the script has
  gone on only while the script waits for it. -/
  quiet : interpreter.broker.slot = none →
    (∀ wanted, .broker (.request wanted) ∉ moves ++ [move]) → move.polls →
      ((after interpreter source (moves ++ [move])).broker.isPending ↔
        ∃ own, (after interpreter source (moves ++ [move])).execution.standing =
          .awaiting own) ∧
      ((after interpreter source (moves ++ [move])).execution.isFinished →
        (after interpreter source (moves ++ [move])).broker.slot = none)

/-- A script never waits without its own request being open after it has gone on. -/
theorem orderly (interpreter : Interpreter) (source : String) (moves : List Move) (move : Move) :
    Orderly interpreter source moves move := by
  have hsound := sound_after interpreter source moves
  constructor
  · intro hstalled
    obtain ⟨hpolls, hreport⟩ := reported _ hstalled
    cases hsound.polled hpolls with
    | waiting htask hrun hslot => simp [Execution.standing, htask, Broker.pending, hslot] at hreport
    | @ended outcome htask => cases outcome <;> simp [Execution.standing, htask] at hreport
  · intro ticket resume hpolls hwaiting
    rw [after_concat] at hwaiting ⊢
    cases hsound.polled hpolls with
    | @waiting _ own state _ htask hrun hslot =>
        rw [hwaiting] at htask
        cases htask
        have hcalling := (interpreter.calling_script source).follow
          ((after interpreter source moves).move move).2.received
        rw [hrun] at hcalling
        refine ⟨own, state, hrun, hrun ▸ hcalling.1, hslot, ?_⟩
        intro report hreport
        rw [(reported _ hreport).2]
        simp [Execution.standing, hwaiting, Broker.pending, hslot]
    | ended htask => simp [hwaiting] at htask
  · exact fun name kind => Builtin.asksFor_of_asked
  · intro error hreceived
    rw [after_concat] at hreceived
    obtain ⟨ticket, resume, htask, hlookup⟩ := lookup_of_received_move hreceived
    obtain ⟨earlier, wanted, later, own, state, hmoves, hearlier, hrun, herror⟩ :=
      orphaned_of_lookup htask hlookup
    exact ⟨earlier, wanted, later, ticket, own, state, resume, hmoves, hearlier, htask, hrun,
      herror⟩
  · intro hslot hmoves hpolls
    have hquiet : Quiet (after interpreter source (moves ++ [move])) := quiet_after hslot hmoves
    rw [after_concat] at hquiet ⊢
    cases hsound.polled hpolls with
    | @waiting ticket own state resume htask hrun hopen =>
        constructor
        · simp [Broker.isPending, hopen, Execution.standing, htask, Broker.pending]
        · simp [Execution.isFinished, htask]
    | @ended outcome htask =>
        have hnone := hquiet.slot_eq_none (by simp [htask])
        constructor
        · cases outcome <;> simp [Broker.isPending, hnone, Execution.standing, htask]
        · exact fun _ => hnone

end Dialogue

end DraftLisp

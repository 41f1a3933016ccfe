import DraftLisp.Proofs.Direct.Evaluation
import DraftLisp.Proofs.Execution.Dialogue

namespace DraftLisp

namespace Run

theorem answered_append (run : Run α) (first second : List Response) :
    run.answered (first ++ second) = (run.answered first).answered second := by
  induction first generalizing run with
  | nil => rfl
  | cons response rest ih =>
      cases run with
      | done outcome state => rw [answered_done, answered_done, answered_done]
      | waiting request state resume => exact ih _

def state : Run α → State
  | .done _ state => state
  | .waiting _ state _ => state

def step : Run Value → Step
  | .done (.ok value) _ => .finished value
  | .done (.error reason) _ => .halted reason
  | .waiting request _ _ => .awaiting request

theorem state_playback (run : Run α) (responses : List Response) (requests : List Request) :
    (run.playback responses requests).2.state = (run.answered responses).state := by
  induction run generalizing responses requests with
  | done outcome state =>
      rw [answered_done]
      cases outcome <;> rfl
  | waiting request state resume ih =>
      cases responses with
      | nil => rfl
      | cons response rest => exact ih _ rest _

/-- A run that is played makes its requests after those that were made before. -/
theorem requests_playback (run : Run α) (responses : List Response) (requests : List Request) :
    requests <+: (run.playback responses requests).2.requests := by
  rw [playback_requests]
  exact List.prefix_append _ _

end Run

namespace Direct

/-- A script ends with a value in every case; an error is written to the log. -/
def report (echo : Bool) : Except Stop Value × Tape → Except Stop Value × Tape
  | (.ok value, tape) =>
    (.ok value, if echo then
      { tape with state := Interpreter.writeLog value.text .result tape.state } else tape)
  | (.error (.halted (.error error)), tape) =>
    (.ok .nil,
      { tape with state := Interpreter.writeLog ("Error: " ++ error.message) .error tape.state })
  | (.error stop, tape) => (.error stop, tape)

def evaluation (interpreter : Interpreter) (source : String) : Direct Value :=
  match interpreter.parse source with
  | .ok forms => evalProgram interpreter.config.rounds interpreter.config.evalDepth forms
  | .error error => fail error

/-- A script with the responses to its requests at hand. -/
def play (interpreter : Interpreter) (source : String) (responses : List Response) :
    Except Stop Value × Tape :=
  report interpreter.config.echoResult
    (evaluation interpreter source ⟨{ interpreter.session with frame := [] }, responses, []⟩)

/-- Where a script stands once some of the responses have been given. -/
def standing (played : Except Stop Value × Tape) (given : Nat) : Step :=
  match played.2.requests[given]? with
  | some request => .awaiting request
  | none =>
    match played.1 with
    | .ok value => .finished value
    | .error (.halted reason) => .halted reason
    | .error .unanswered => .stalled

theorem playback_report (echo : Bool) (run : Run Value) (responses : List Response)
    (requests : List Request) :
    (Interpreter.report echo run).playback responses requests =
      report echo (run.playback responses requests) := by
  induction run generalizing responses requests with
  | done outcome state =>
      rcases outcome with (error | _ | _) | value
      · rfl
      · rfl
      · rfl
      · cases echo <;> rfl
  | waiting request state resume ih =>
      cases responses with
      | nil => rfl
      | cons response rest => exact ih _ rest _

theorem replays_evaluation (interpreter : Interpreter) (source : String) :
    Replays (evaluation interpreter source) (interpreter.evaluation source) := by
  unfold evaluation Interpreter.evaluation
  cases interpreter.parse source with
  | ok forms => exact replays_evalProgram _ _ forms
  | error error => exact replays_fail error

theorem play_eq_playback (interpreter : Interpreter) (source : String)
    (responses : List Response) :
    play interpreter source responses = (interpreter.script source).playback responses [] := by
  unfold play Interpreter.script Interpreter.batch
  rw [replays_evaluation, playback_report]

theorem standing_playback (run : Run Value) (given rest : List Response)
    (requests : List Request) :
    standing (run.playback (given ++ rest) requests) (requests.length + given.length) =
      (run.answered given).step := by
  induction run generalizing given requests with
  | done outcome state =>
      have hnone : requests[requests.length + given.length]? = none :=
        List.getElem?_eq_none (Nat.le_add_right _ _)
      rw [Run.answered_done]
      cases outcome <;> simp only [standing, Run.playback, Run.step, hnone]
  | waiting request state resume ih =>
      cases given with
      | nil =>
          -- The request is made whether or not there is a response to it.
          obtain ⟨later, hlater⟩ : requests ++ [request] <+:
              ((Run.waiting request state resume).playback rest requests).2.requests := by
            cases rest with
            | nil => exact List.prefix_rfl
            | cons response rest => exact Run.requests_playback _ _ _
          simp only [standing, List.nil_append, ← hlater]
          simp [Run.answered, Run.step]
      | cons response given =>
          have hnext := ih (response.settlement request.kind) given (requests ++ [request])
          rw [List.length_append, List.length_singleton, Nat.add_right_comm] at hnext
          exact hnext

end Direct

namespace Dialogue

/-- The script is suspended or has ended where its run has. -/
def At (dialogue : Dialogue) : Run Value → Prop
  | .done outcome state =>
      dialogue.execution.task = .ended outcome ∧
        dialogue.execution.interpreter.session = state.toSession
  | .waiting request state resume =>
      ∃ ticket, dialogue.execution.task = .waiting ticket resume ∧
        dialogue.broker.slot = some (ticket, request) ∧
        dialogue.execution.interpreter.session = state.toSession

theorem at_advance (interpreter : Interpreter) (run : Run Value) (tickets : List Ticket)
    (received : List Settlement) :
    At ⟨⟨(interpreter.advance run).1, (interpreter.advance run).2⟩, tickets, received⟩ run := by
  cases run with
  | done outcome state => exact ⟨rfl, rfl⟩
  | waiting request state resume => exact ⟨_, rfl, rfl, rfl⟩

variable {dialogue : Dialogue} {run : Run Value}

/-- Polling again changes nothing. -/
theorem At.poll_eq (h : dialogue.At run) : dialogue.poll = dialogue := by
  cases run with
  | done outcome state => exact poll_of_ended h.1
  | waiting request state resume =>
      obtain ⟨ticket, htask, hslot, -⟩ := h
      exact poll_of_open htask (Broker.lookup_eq_none_of_slot hslot)

theorem At.standing_eq (h : dialogue.At run) : dialogue.execution.standing = run.step := by
  cases run with
  | done outcome state =>
      unfold Execution.standing
      rw [h.1]
      cases outcome <;> rfl
  | waiting request state resume =>
      obtain ⟨ticket, htask, hslot, -⟩ := h
      have hpending : dialogue.execution.interpreter.broker.pending = some request := by
        simp [Broker.pending, hslot]
      unfold Execution.standing
      rw [htask]
      simp only [hpending]
      rfl

theorem At.session_eq (h : dialogue.At run) :
    dialogue.execution.interpreter.session = run.state.toSession := by
  cases run with
  | done outcome state => exact h.2
  | waiting request state resume => exact h.choose_spec.2.2

/-- The host decides for the open request and the script goes on. -/
theorem At.decide (h : dialogue.At run) {action : Broker.Action} {response : Response}
    (hdecides : ∀ kind, action.decides? kind = some (response.settlement kind))
    (huse : dialogue.use action =
      { dialogue with
        execution := dialogue.execution.onBroker fun broker => (broker.act action).2 }) :
    (dialogue.use action).poll.At (run.answered [response]) := by
  cases run with
  | done outcome state =>
      obtain ⟨htask, hsession⟩ := h
      have hsame : (dialogue.use action).execution.task = .ended outcome :=
        (task_use dialogue action).trans htask
      rw [poll_of_ended hsame, huse]
      exact ⟨htask, hsession⟩
  | waiting request state resume =>
      obtain ⟨ticket, htask, hslot, -⟩ := h
      have hwaiting : (dialogue.use action).execution.task = .waiting ticket resume :=
        (task_use dialogue action).trans htask
      have hlookup : (dialogue.use action).broker.settled.lookup ticket =
          some (response.settlement request.kind) := by
        rw [huse]
        exact Broker.lookup_act_iff.mpr (.inl ⟨request, hslot, hdecides request.kind⟩)
      obtain ⟨broker, -, hpoll⟩ := poll_of_decided hwaiting hlookup
      rw [hpoll]
      exact at_advance _ (resume (response.settlement request.kind)) _ _

end Dialogue

/-- What a host that goes on with a script responds to the open request. -/
def Move.response? : Move → Option Response
  | .answer raw => some (.answer raw)
  | .abandon => some .cancel
  | .step | .await | .broker _ => none

namespace Dialogue

variable {dialogue : Dialogue} {run : Run Value}

theorem At.move (h : dialogue.At run) {move : Move} (hpolls : move.polls) :
    (dialogue.move move).2.At (run.answered move.response?.toList) := by
  cases move with
  | step =>
      change dialogue.poll.At run
      rw [h.poll_eq]
      exact h
  | await =>
      change dialogue.poll.At run
      rw [h.poll_eq]
      exact h
  | answer raw =>
      refine h.decide (fun kind => ?_) rfl
      simp [Broker.Action.decides?, Response.settlement, Answer.value_eq_getD]
  | abandon => exact h.decide (fun _ => rfl) rfl
  | broker action => cases hpolls

theorem at_after (interpreter : Interpreter) (source : String) {moves : List Move}
    (hpolls : ∀ move ∈ moves, move.polls) :
    (after interpreter source (.step :: moves)).At
      ((interpreter.script source).answered (moves.filterMap Move.response?)) := by
  induction moves using List.reverseRecOn with
  | nil =>
      change (start interpreter source).poll.At (interpreter.script source)
      rw [poll_of_ready rfl rfl]
      exact at_advance interpreter _ _ _
  | append_singleton moves last ih =>
      have hbefore := ih fun move hmove => hpolls move (List.mem_append_left _ hmove)
      have hlast := hbefore.move (hpolls last (by simp))
      rw [← List.cons_append, after_concat, List.filterMap_append, Run.answered_append]
      cases hresponse : last.response? <;> simpa [hresponse] using hlast

/-- How a script that its host has taken up to its first request, and then has gone on with, relates
to the same script in one go with the responses of the host at hand. -/
structure InOneGo (interpreter : Interpreter) (source : String) (moves : List Move)
    (played : Except Stop Value × Tape) : Prop where
  /-- Wherever the script has stood, it has stood in one go after as many responses. -/
  standing : ∀ before later, moves = before ++ later →
    (after interpreter source (.step :: before)).execution.standing =
      Direct.standing played (before.filterMap Move.response?).length
  /-- What the host has been told is where the script stands in one go. -/
  reports : ∀ before move later report, .step :: moves = before ++ move :: later →
    ((after interpreter source before).move move).1 = some report →
      report = Direct.standing played ((before ++ [move]).filterMap Move.response?).length
  /-- Variables, functions, drawing and log are the same as well. -/
  session : (after interpreter source (.step :: moves)).execution.interpreter.session =
    played.2.state.toSession
  /-- Another step tells the same once more and changes nothing. -/
  step : (after interpreter source (.step :: moves)).move .step =
    (some (after interpreter source (.step :: moves)).execution.standing,
      after interpreter source (.step :: moves))
  await : (after interpreter source (.step :: moves)).move .await =
    (none, after interpreter source (.step :: moves))

/-- A script that is suspended at its requests does what it does in one go. -/
theorem in_one_go (interpreter : Interpreter) (source : String) (moves : List Move)
    (hpolls : ∀ move ∈ moves, move.polls) :
    InOneGo interpreter source moves
      (Direct.play interpreter source (moves.filterMap Move.response?)) := by
  have hstanding (before later : List Move) (hmoves : moves = before ++ later) :
      (after interpreter source (.step :: before)).execution.standing =
        Direct.standing (Direct.play interpreter source (moves.filterMap Move.response?))
          (before.filterMap Move.response?).length := by
    have hbefore : ∀ move ∈ before, move.polls := fun move hmove =>
      hpolls move (hmoves ▸ List.mem_append_left _ hmove)
    have hplayed := Direct.standing_playback (interpreter.script source)
      (before.filterMap Move.response?) (later.filterMap Move.response?) []
    rw [← List.filterMap_append, ← hmoves, ← Direct.play_eq_playback] at hplayed
    rw [(at_after interpreter source hbefore).standing_eq, ← hplayed, List.length_nil, Nat.zero_add]
  have hafter := at_after interpreter source hpolls
  constructor
  · exact hstanding
  · intro before move later report hmoves hreport
    rw [(reported _ hreport).2, ← after_concat]
    cases before with
    | nil =>
        obtain ⟨rfl, rfl⟩ := List.cons.inj hmoves
        exact hstanding [] moves rfl
    | cons first before =>
        obtain ⟨rfl, hmoves⟩ := List.cons.inj hmoves
        exact hstanding (before ++ [move]) later (by simpa using hmoves)
  · rw [hafter.session_eq, Direct.play_eq_playback, Run.state_playback]
  · change (some (poll _).execution.standing, poll _) = _
    rw [hafter.poll_eq]
  · exact congrArg (Prod.mk none) hafter.poll_eq

/-- A script that asks once is given a name, and polled in between. -/
theorem in_one_go_name :
    (∀ move ∈ [Move.step, .answer (.string "Wall"), .await], move.polls) ∧
      InOneGo (.new .default) "(list (getstring \"Name: \"))"
        [.step, .answer (.string "Wall"), .await]
        (Direct.play (.new .default) "(list (getstring \"Name: \"))" [.answer (.string "Wall")]) ∧
      (Direct.play (.new .default) "(list (getstring \"Name: \"))"
        [.answer (.string "Wall")]).2.requests = [⟨.string, "Name: ", none⟩] := by
  have hpolls : ∀ move ∈ [Move.step, .answer (.string "Wall"), .await], move.polls := by decide
  exact ⟨hpolls, in_one_go _ _ _ hpolls, by decide +kernel⟩

end Dialogue

end DraftLisp

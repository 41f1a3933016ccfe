import DraftLisp.Proofs.Drawing.Histories
import DraftLisp.Proofs.Execution.Closing

namespace DraftLisp

namespace Drawing

def writeAll (lines : List (String × LogStyle)) (drawing : Drawing) : Drawing :=
  { drawing with log := drawing.log ++ lines }

theorem writeAll_nil (drawing : Drawing) : drawing.writeAll [] = drawing := by simp [writeAll]

theorem writeAll_singleton (text : String) (style : LogStyle) (drawing : Drawing) :
    drawing.writeAll [(text, style)] = drawing.writeLog text style := by
  simp [writeAll, writeLog]

/-- The lines of the log that tell how scripts have ended. -/
def reports (drawing : Drawing) : List (String × LogStyle) :=
  drawing.log.toList.filter (·.2.reports)

theorem reports_writeLog (drawing : Drawing) (text : String) {style : LogStyle}
    (h : style.reports = false) : (drawing.writeLog text style).reports = drawing.reports := by
  simp [reports, writeLog, h]

theorem reports_writeAll (drawing : Drawing) {lines : List (String × LogStyle)}
    (h : ∀ line ∈ lines, line.2.reports) :
    (drawing.writeAll lines).reports = drawing.reports ++ lines := by
  have hlines : lines.filter (·.2.reports) = lines := List.filter_eq_self.mpr h
  simp [reports, writeAll, hlines]

theorem reports_of_log {before after : Drawing} (h : after.log = before.log) :
    after.reports = before.reports := by
  rw [reports, h, reports]

end Drawing

open Drawing

/-- No operator writes a line that looks like a report. -/
theorem Builtin.Effect.reports_eq {operator : String} {operands : List Value} {before : Drawing}
    {result : Except Error Value × Drawing} (h : Effect operator operands before result) :
    result.2.reports = before.reports := by
  cases h with
  | refused error => rfl
  | noted value hnoted =>
      cases hnoted with
      | nothing => rfl
      | written text hstyle => exact before.reports_writeLog text hstyle
      | set name value => rfl
  | made value data _ =>
      exact reports_of_log (recorded_add (before.checkpoint "entmake") data true).log
  | modified value _ hchanged => exact reports_of_log (recorded_of_update hchanged).log
  | deleted value _ hchanged => exact reports_of_log (recorded_of_remove hchanged).log
  | redrawn value _ => rfl
  | @called value call _ =>
      unfold CommandCall.carriedOut
      cases call.name? <;> rfl
  | nameless _ => rfl

/-- The lines that report how a script has ended. -/
def reportLines (echo : Bool) : Except Halt Value → List (String × LogStyle)
  | .ok value => if echo then [(value.text, .result)] else []
  | .error (.error error) => [("Error: " ++ error.message, .error)]
  | .error _ => []

/-- What is left of an outcome once it is reported: an error has become nil. -/
def reportedOutcome : Except Halt Value → Except Halt Value
  | .error (.error _) => .ok .nil
  | outcome => outcome

theorem reports_reportLines (echo : Bool) (outcome : Except Halt Value) :
    ∀ line ∈ reportLines echo outcome, line.2.reports := by
  rcases outcome with (error | _ | _) | value
  · simp [reportLines, LogStyle.reports]
  · simp [reportLines]
  · simp [reportLines]
  · cases echo <;> simp [reportLines, LogStyle.reports]

namespace Task

def ending? : Task → Option (Except Halt Value)
  | .ended outcome => some outcome
  | _ => none

/-- The task of the script that reports. -/
def reported (echo : Bool) : Task → Task
  | .ready body => .ready fun state => Interpreter.report echo (body state)
  | .waiting ticket resume =>
      .waiting ticket fun outcome => Interpreter.report echo (resume outcome)
  | .ended outcome => .ended (reportedOutcome outcome)

def lines (echo : Bool) (task : Task) : List (String × LogStyle) :=
  task.ending?.toList.flatMap (reportLines echo)

end Task

namespace Interpreter

/-- An interpreter with some more lines in the log. -/
def logging (lines : List (String × LogStyle)) (interpreter : Interpreter) : Interpreter :=
  { interpreter with
    session := { interpreter.session with drawing := interpreter.session.drawing.writeAll lines } }

theorem logging_nil (interpreter : Interpreter) : interpreter.logging [] = interpreter := by
  rw [logging, writeAll_nil]

theorem report_done (echo : Bool) (outcome : Except Halt Value) (state : State) :
    report echo (.done outcome state) =
      .done (reportedOutcome outcome)
        { state with drawing := state.drawing.writeAll (reportLines echo outcome) } := by
  rcases outcome with (error | _ | _) | value
  · simp only [report, writeLog, reportLines, reportedOutcome, writeAll_singleton]
  · simp only [report, reportLines, reportedOutcome, writeAll_nil]
  · simp only [report, reportLines, reportedOutcome, writeAll_nil]
  · cases echo
    · simp [report, reportLines, reportedOutcome, writeAll_nil]
    · simp [report, writeLog, reportLines, reportedOutcome, writeAll_singleton]

end Interpreter

namespace Execution

/-- The execution of the script that reports where this one does not. -/
def reported (execution : Execution) : Execution :=
  let echo := execution.interpreter.config.echoResult
  ⟨execution.interpreter.logging (execution.task.lines echo), execution.task.reported echo⟩

theorem reported_of_unfinished {execution : Execution} (h : execution.task.ending? = none) :
    execution.reported =
      ⟨execution.interpreter,
        execution.task.reported execution.interpreter.config.echoResult⟩ := by
  rw [reported, Task.lines, h]
  simp only [Option.toList_none, List.flatMap_nil, Interpreter.logging_nil]

theorem advance_report (interpreter : Interpreter) (run : Run Value) :
    let reporting := interpreter.advance (Interpreter.report interpreter.config.echoResult run)
    let silent := interpreter.advance run
    (⟨reporting.1, reporting.2⟩ : Execution) = reported ⟨silent.1, silent.2⟩ := by
  cases run with
  | done outcome state =>
      rw [Interpreter.report_done]
      simp [Interpreter.advance, reported, Task.lines, Task.ending?, Task.reported,
        Interpreter.logging]
  | waiting request state resume => exact Eq.symm (reported_of_unfinished rfl)

theorem poll_reported (execution : Execution) :
    execution.reported.poll = execution.poll.reported := by
  obtain ⟨interpreter, task⟩ := execution
  cases task with
  | ready body =>
      rw [reported_of_unfinished rfl]
      exact advance_report interpreter _
  | waiting ticket resume =>
      rw [reported_of_unfinished rfl]
      cases hpoll : interpreter.broker.poll ticket with
      | none =>
          simp only [poll, Interpreter.poll, Task.reported, hpoll]
          exact Eq.symm (reported_of_unfinished rfl)
      | some delivered =>
          obtain ⟨outcome, broker⟩ := delivered
          simp only [poll, Interpreter.poll, Task.reported, hpoll]
          exact advance_report { interpreter with broker } (resume outcome)
  | ended outcome => rfl

theorem play_reported (execution : Execution) (move : Move) :
    execution.reported.play move = (execution.play move).reported := by
  cases move with
  | step => exact poll_reported execution
  | await => exact poll_reported execution
  | answer raw => exact poll_reported (execution.onBroker (·.resolve raw))
  | abandon => exact poll_reported (execution.onBroker (·.cancel))
  | broker action => rfl

theorem config_advance (interpreter : Interpreter) (run : Run Value) :
    (interpreter.advance run).1.config = interpreter.config := by
  cases run <;> rfl

theorem config_poll (execution : Execution) :
    execution.poll.interpreter.config = execution.interpreter.config := by
  obtain ⟨interpreter, task⟩ := execution
  cases task with
  | ready body => exact config_advance interpreter _
  | ended outcome => rfl
  | waiting ticket resume =>
      cases hpoll : interpreter.broker.poll ticket with
      | none => simp only [poll, Interpreter.poll, hpoll]
      | some delivered =>
          simp only [poll, Interpreter.poll, hpoll]
          exact config_advance { interpreter with broker := delivered.2 } _

theorem config_play (execution : Execution) (move : Move) :
    (execution.play move).interpreter.config = execution.interpreter.config := by
  cases move with
  | step => exact config_poll execution
  | await => exact config_poll execution
  | answer raw => exact config_poll (execution.onBroker (·.resolve raw))
  | abandon => exact config_poll (execution.onBroker (·.cancel))
  | broker action => rfl

theorem playAll_reported (execution : Execution) (moves : List Move) :
    moves.foldl play execution.reported = (moves.foldl play execution).reported := by
  induction moves generalizing execution with
  | nil => rfl
  | cons move rest ih =>
      rw [List.foldl_cons, List.foldl_cons, play_reported]
      exact ih (execution.play move)

theorem config_playAll (execution : Execution) (moves : List Move) :
    (moves.foldl play execution).interpreter.config = execution.interpreter.config := by
  induction moves generalizing execution with
  | nil => rfl
  | cons move rest ih =>
      rw [List.foldl_cons, ih]
      exact config_play execution move

end Execution

namespace Batch

/-- The same script for a host that receives the outcome itself. -/
def silent (batch : Batch) : Batch := { batch with reported := false }

theorem run_of_reported {batch : Batch} (h : batch.reported = true) (interpreter : Interpreter) :
    batch.run interpreter = (batch.silent.run interpreter).reported := by
  have hstart : batch.start interpreter = (batch.silent.start interpreter).reported := by
    rw [start, if_pos h]
    exact Eq.symm (Execution.reported_of_unfinished rfl)
  rw [run, hstart, Execution.playAll_reported]
  rfl

theorem run_of_silent {batch : Batch} (h : batch.reported = false) (interpreter : Interpreter) :
    batch.run interpreter = batch.silent.run interpreter := by
  rw [silent, ← h]

theorem config_run (batch : Batch) (interpreter : Interpreter) :
    (batch.run interpreter).interpreter.config = interpreter.config := by
  rw [run, Execution.config_playAll, start]
  split <;> rfl

theorem session_leave (batch : Batch) (execution : Execution) :
    (batch.leave execution).session = execution.interpreter.session := by
  unfold leave
  split
  · exact execution.session_close
  · rfl

theorem config_leave (batch : Batch) (execution : Execution) :
    (batch.leave execution).config = execution.interpreter.config := by
  unfold leave
  split
  · exact execution.config_close
  · rfl

/-- Nothing but the end of a script is reported. -/
theorem reports_silent (batch : Batch) (interpreter : Interpreter) :
    (batch.silent.run interpreter).interpreter.session.drawing.reports =
      interpreter.session.drawing.reports := by
  have hholds := Invariant.holdsOf_evaluation
    (P := fun drawing => drawing.reports = interpreter.session.drawing.reports)
    (fun heffect h => heffect.reports_eq.trans h)
    (fun prompt h => (Drawing.reports_writeLog _ prompt rfl).trans h) rfl batch.source batch.moves
  exact hholds.session

/-- How a script that reports has ended, if it has. -/
def endings (batch : Batch) (interpreter : Interpreter) : List (Except Halt Value) :=
  if batch.reported then (batch.silent.run interpreter).task.ending?.toList else []

theorem reports_run (batch : Batch) (interpreter : Interpreter) :
    (batch.run interpreter).interpreter.session.drawing.reports =
      interpreter.session.drawing.reports ++
        (batch.endings interpreter).flatMap (reportLines interpreter.config.echoResult) := by
  unfold endings
  cases h : batch.reported with
  | false =>
      rw [run_of_silent h, reports_silent]
      simp
  | true =>
      have hconfig := batch.silent.config_run interpreter
      have hlines : ∀ line ∈
          (batch.silent.run interpreter).task.lines interpreter.config.echoResult,
          line.2.reports := by
        intro line hline
        obtain ⟨outcome, -, houtcome⟩ := List.mem_flatMap.mp hline
        exact reports_reportLines _ outcome line houtcome
      rw [run_of_reported h, Execution.reported, hconfig]
      refine (Drawing.reports_writeAll _ hlines).trans ?_
      rw [reports_silent]
      rfl

end Batch

namespace Interpreter

/-- How the scripts of a session that report have ended, as far as they have. -/
def endings (interpreter : Interpreter) : List Batch → List (Except Halt Value)
  | [] => []
  | batch :: rest =>
      batch.endings interpreter ++ (batch.leave (batch.run interpreter)).endings rest

theorem reports_afterBatches (interpreter : Interpreter) (batches : List Batch) :
    (interpreter.afterBatches batches).session.drawing.reports =
      interpreter.session.drawing.reports ++
        (interpreter.endings batches).flatMap (reportLines interpreter.config.echoResult) := by
  induction batches generalizing interpreter with
  | nil => simp [endings, afterBatches]
  | cons batch rest ih =>
      have hconfig : (batch.leave (batch.run interpreter)).config = interpreter.config :=
        (batch.config_leave _).trans (batch.config_run interpreter)
      refine (ih (batch.leave (batch.run interpreter))).trans ?_
      rw [batch.session_leave, batch.reports_run, hconfig, endings, List.flatMap_append,
        List.append_assoc]

end Interpreter

def aborted : Except Halt Value → Bool
  | .error (.error _) => true
  | _ => false

def Drawing.errorLines (drawing : Drawing) : Nat := drawing.log.toList.countP (·.2 = .error)

theorem Drawing.errorLines_eq (drawing : Drawing) :
    drawing.errorLines = drawing.reports.countP (·.2 = .error) := by
  rw [errorLines, reports, List.countP_filter]
  refine List.countP_congr fun line _ => ?_
  cases line.2 <;> simp [LogStyle.reports]

theorem countP_reportLines (echo : Bool) (outcomes : List (Except Halt Value)) :
    (outcomes.flatMap (reportLines echo)).countP (·.2 = .error) = outcomes.countP aborted := by
  induction outcomes with
  | nil => rfl
  | cons outcome rest ih =>
      rw [List.flatMap_cons, List.countP_append, ih, List.countP_cons, Nat.add_comm]
      congr 1
      rcases outcome with (error | _ | _) | value
      · rfl
      · rfl
      · rfl
      · cases echo <;> rfl

/-- A script that reports, beside the same one that does not. -/
structure Beside (echo : Bool) (reporting silent : Execution) : Prop where
  /-- The same requests are open, answered and collected. -/
  broker : reporting.interpreter.broker = silent.interpreter.broker
  waiting : ∀ ticket, (∃ resume, reporting.task = .waiting ticket resume) ↔
    ∃ resume, silent.task = .waiting ticket resume
  globals : reporting.interpreter.session.globals = silent.interpreter.session.globals
  functions : reporting.interpreter.session.functions = silent.interpreter.session.functions
  nextClosure : reporting.interpreter.session.nextClosure = silent.interpreter.session.nextClosure
  /-- The drawings differ in the log alone, -/
  drawing : reporting.interpreter.session.drawing =
    { silent.interpreter.session.drawing with log := reporting.interpreter.session.drawing.log }
  /-- and not before the end. -/
  unfinished : silent.isFinished = false →
    reporting.isFinished = false ∧ reporting.standing = silent.standing ∧
      reporting.interpreter.session = silent.interpreter.session
  value : ∀ value, silent.standing = .finished value →
    reporting.standing = .finished value ∧
      reporting.interpreter.session.drawing.log = silent.interpreter.session.drawing.log ++
        if echo then [(value.text, LogStyle.result)] else []
  error : ∀ error, silent.standing = .halted (.error error) →
    reporting.standing = .finished .nil ∧
      reporting.interpreter.session.drawing.log =
        silent.interpreter.session.drawing.log.push ("Error: " ++ error.message, .error)
  /-- An end that is neither a value nor an error is not reported. -/
  halted : ∀ reason, silent.standing = .halted reason → (∀ error, reason ≠ .error error) →
    reporting.standing = .halted reason ∧
      reporting.interpreter.session.drawing.log = silent.interpreter.session.drawing.log
  caught : ∀ error, reporting.standing ≠ .halted (.error error)

namespace Execution

theorem standing_of_unfinished {execution : Execution} (h : execution.isFinished = false) :
    execution.standing = execution.interpreter.broker.pending.elim .stalled .awaiting := by
  unfold isFinished at h
  unfold standing
  split
  · simp_all
  · simp_all
  · cases execution.interpreter.broker.pending <;> rfl

theorem standing_ne_of_unfinished {execution : Execution} (h : execution.isFinished = false) :
    (∀ value, execution.standing ≠ .finished value) ∧
      ∀ reason, execution.standing ≠ .halted reason := by
  rw [standing_of_unfinished h]
  cases execution.interpreter.broker.pending with
  | none => exact ⟨nofun, nofun⟩
  | some request => exact ⟨nofun, nofun⟩

theorem beside_of_unfinished {interpreter : Interpreter} {reporting silent : Task}
    (hreporting : isFinished ⟨interpreter, reporting⟩ = false)
    (hsilent : isFinished ⟨interpreter, silent⟩ = false)
    (hwaiting : ∀ ticket, (∃ resume, reporting = .waiting ticket resume) ↔
      ∃ resume, silent = .waiting ticket resume) (echo : Bool) :
    Beside echo ⟨interpreter, reporting⟩ ⟨interpreter, silent⟩ where
  broker := rfl
  waiting := hwaiting
  globals := rfl
  functions := rfl
  nextClosure := rfl
  drawing := rfl
  unfinished _ :=
    have hstanding :=
      (standing_of_unfinished hreporting).trans (standing_of_unfinished hsilent).symm
    ⟨hreporting, hstanding, rfl⟩
  value value hvalue := absurd hvalue ((standing_ne_of_unfinished hsilent).1 value)
  error error herror := absurd herror ((standing_ne_of_unfinished hsilent).2 (.error error))
  halted reason hreason _ := absurd hreason ((standing_ne_of_unfinished hsilent).2 reason)
  caught error := (standing_ne_of_unfinished hreporting).2 (.error error)

theorem beside_of_ended (interpreter : Interpreter) (outcome : Except Halt Value) (echo : Bool) :
    Beside echo
      ⟨interpreter.logging (reportLines echo outcome), .ended (reportedOutcome outcome)⟩
      ⟨interpreter, .ended outcome⟩ where
  broker := rfl
  waiting := by simp
  globals := rfl
  functions := rfl
  nextClosure := rfl
  drawing := rfl
  unfinished := nofun
  value := by
    intro value hvalue
    cases outcome with
    | error reason => cases hvalue
    | ok _ =>
        cases hvalue
        exact ⟨rfl, rfl⟩
  error := by
    intro error herror
    cases outcome with
    | ok _ => cases herror
    | error _ =>
        cases herror
        exact ⟨rfl, Array.push_eq_append.symm⟩
  halted := by
    intro reason hreason hne
    cases outcome with
    | ok _ => cases hreason
    | error _ =>
        cases hreason
        cases reason with
        | error error => exact absurd rfl (hne error)
        | overlong => exact ⟨rfl, congrArg (·.session.drawing.log) interpreter.logging_nil⟩
        | endless => exact ⟨rfl, congrArg (·.session.drawing.log) interpreter.logging_nil⟩
  caught := by
    intro error
    rcases outcome with (_ | _ | _) | _ <;> exact nofun

theorem beside_reported (execution : Execution) :
    Beside execution.interpreter.config.echoResult execution.reported execution := by
  obtain ⟨interpreter, task⟩ := execution
  cases task with
  | ready body =>
      rw [reported_of_unfinished rfl]
      refine beside_of_unfinished ?_ ?_ ?_ _
      · rfl
      · rfl
      · simp [Task.reported]
  | waiting ticket resume =>
      rw [reported_of_unfinished rfl]
      refine beside_of_unfinished ?_ ?_ ?_ _
      · rfl
      · rfl
      · simp [Task.reported]
  | ended outcome =>
      have hreported : reported ⟨interpreter, .ended outcome⟩ =
          ⟨interpreter.logging (reportLines interpreter.config.echoResult outcome),
            .ended (reportedOutcome outcome)⟩ := by
        simp [reported, Task.lines, Task.ending?, Task.reported]
      rw [hreported]
      exact beside_of_ended interpreter outcome _

end Execution

/-- How an interpreter reports what becomes of scripts. -/
structure Reporting (interpreter : Interpreter) : Prop where
  /-- A script that reports does what it does without a report, whatever its host does. -/
  beside : ∀ source moves,
    Beside interpreter.config.echoResult ((⟨source, true, moves⟩ : Batch).run interpreter)
      ((⟨source, false, moves⟩ : Batch).run interpreter)
  /-- No script writes a line that looks like a report. -/
  silent : ∀ source moves,
    ((⟨source, false, moves⟩ : Batch).run interpreter).interpreter.session.drawing.reports =
      interpreter.session.drawing.reports
  /-- So the reports of a session are those of its scripts, each once and in order, -/
  reports : ∀ batches, (interpreter.afterBatches batches).session.drawing.reports =
    interpreter.session.drawing.reports ++
      (interpreter.endings batches).flatMap (reportLines interpreter.config.echoResult)
  /-- and there are as many lines about errors as scripts that ended with one. -/
  errors : ∀ batches, (interpreter.afterBatches batches).session.drawing.errorLines =
    interpreter.session.drawing.errorLines + (interpreter.endings batches).countP aborted

theorem Interpreter.reporting (interpreter : Interpreter) : Reporting interpreter where
  beside source moves := by
    have hconfig := (⟨source, false, moves⟩ : Batch).config_run interpreter
    have hbeside := ((⟨source, false, moves⟩ : Batch).run interpreter).beside_reported
    rw [hconfig] at hbeside
    rw [Batch.run_of_reported rfl]
    exact hbeside
  silent source moves := (⟨source, false, moves⟩ : Batch).reports_silent interpreter
  reports := interpreter.reports_afterBatches
  errors batches := by
    rw [Drawing.errorLines_eq, Drawing.errorLines_eq, interpreter.reports_afterBatches,
      List.countP_append, countP_reportLines]

end DraftLisp

import DraftLisp.Proofs.Execution.Suspension

namespace DraftLisp

namespace Execution

variable {execution : Execution}

theorem close_of_finished (h : execution.isFinished = true) :
    execution.close = execution.interpreter :=
  if_pos h

theorem close_of_unfinished (h : execution.isFinished = false) :
    execution.close =
      { execution.interpreter with broker := execution.interpreter.broker.cancel } := by
  unfold close
  rw [h]
  rfl

theorem close_of_slot_none (h : execution.interpreter.broker.slot = none) :
    execution.close = execution.interpreter := by
  cases hfinished : execution.isFinished with
  | true => exact close_of_finished hfinished
  | false => rw [close_of_unfinished hfinished, Broker.cancel, Broker.settle_of_slot_none h]

theorem session_close (execution : Execution) :
    execution.close.session = execution.interpreter.session := by
  unfold close
  split <;> rfl

theorem config_close (execution : Execution) :
    execution.close.config = execution.interpreter.config := by
  unfold close
  split <;> rfl

theorem broker_close_of_slot (h : execution.isFinished = false) {ticket : Ticket}
    {request : Request} (hslot : execution.interpreter.broker.slot = some (ticket, request)) :
    execution.close.broker.slot = none ∧
      execution.close.broker.settled =
        (ticket, .ok .nil) :: execution.interpreter.broker.settled := by
  rw [close_of_unfinished h]
  exact ⟨Broker.slot_settle _ _, Broker.settled_settle_of_slot hslot _⟩

theorem isFinished_of_waiting {ticket : Ticket} {resume : Settlement → Run Value}
    (h : execution.task = .waiting ticket resume) : execution.isFinished = false := by
  simp [isFinished, h]

end Execution

namespace Dialogue

open Execution

variable {run : Run Value} {dialogue : Dialogue}

/-- A script that waits receives an outcome in every case: nil if its request was still open, and
else what was decided before. -/
theorem Sound.own_of_close (h : Sound run dialogue) {ticket : Ticket}
    {resume : Settlement → Run Value} (htask : dialogue.execution.task = .waiting ticket resume) :
    (∃ own, dialogue.broker.slot = some (ticket, own)) ∧
        dialogue.execution.close.broker.settled.lookup ticket = some (.ok .nil) ∨
      ∃ outcome, dialogue.broker.settled.lookup ticket = some outcome ∧
        dialogue.execution.close.broker.settled.lookup ticket = some outcome := by
  have hunfinished := isFinished_of_waiting htask
  cases h.follows with
  | ready hother => simp [htask] at hother
  | ended hother => simp [htask] at hother
  | @waiting _ own _ _ hother hrun hholds =>
      rw [htask] at hother
      cases hother
      rcases hholds with hslot | ⟨outcome, hlookup⟩
      · refine .inl ⟨⟨own, hslot⟩, ?_⟩
        rw [(broker_close_of_slot hunfinished hslot).2, Broker.lookup_cons_eq_ite, if_pos rfl]
      · refine .inr ⟨outcome, hlookup, ?_⟩
        rw [close_of_unfinished hunfinished]
        change (dialogue.broker.act .cancel).2.settled.lookup ticket = some outcome
        exact Broker.lookup_act_iff.mpr (.inr ⟨hlookup, nofun⟩)

/-- If no request but that of the script can be open, the requests of others stay as they are. -/
theorem Sound.others_of_close (h : Sound run dialogue)
    (hown : dialogue.execution.isFinished = false → Quiet dialogue) {ticket : Ticket}
    (hticket : ticket ∈ dialogue.tickets) :
    dialogue.execution.close.broker.settled.lookup ticket =
        dialogue.broker.settled.lookup ticket ∧
      ∀ request, dialogue.broker.slot = some (ticket, request) →
        dialogue.execution.close.broker.slot = some (ticket, request) := by
  cases hfinished : dialogue.execution.isFinished with
  | true =>
      rw [close_of_finished hfinished]
      exact ⟨rfl, fun _ => id⟩
  | false =>
      cases hslot : dialogue.broker.slot with
      | none =>
          rw [close_of_slot_none hslot]
          exact ⟨rfl, nofun⟩
      | some opened =>
          obtain ⟨open', wanted⟩ := opened
          obtain ⟨resume, htask⟩ := hown hfinished open' wanted hslot
          have hne : ticket ≠ open' := by
            rintro rfl
            cases h.follows with
            | ready hother => simp [htask] at hother
            | ended hother => simp [htask] at hother
            | waiting hother _ _ _ hnot =>
                rw [htask] at hother
                cases hother
                exact hnot hticket
          constructor
          · rw [(broker_close_of_slot hfinished hslot).2, Broker.lookup_cons_eq_ite, if_neg hne]
          · rintro request ⟨⟩
            exact absurd rfl hne

theorem Polled.quiet (h : Polled run dialogue)
    (hunfinished : dialogue.execution.isFinished = false) : Quiet dialogue := by
  intro ticket request hslot
  cases h with
  | @waiting _ _ _ resume htask hrun hown =>
      rw [hslot] at hown
      cases hown
      exact ⟨resume, htask⟩
  | ended htask => simp [isFinished, htask] at hunfinished

/-- What becomes of an interpreter when a script is left after some moves of its host. -/
structure Left (interpreter : Interpreter) (source : String) (moves : List Move) : Prop where
  /-- All that the script has done stays. -/
  session : (after interpreter source moves).execution.close.session =
    (after interpreter source moves).execution.interpreter.session
  config : (after interpreter source moves).execution.close.config =
    (after interpreter source moves).execution.interpreter.config
  /-- A script that has ended leaves the broker alone. -/
  finished : (after interpreter source moves).execution.isFinished = true →
    (after interpreter source moves).execution.close =
      (after interpreter source moves).execution.interpreter
  /-- So does every script while nothing is open. -/
  idle : (after interpreter source moves).broker.slot = none →
    (after interpreter source moves).execution.close =
      (after interpreter source moves).execution.interpreter
  /-- A script that has not ended settles the open request with nil, whoever has opened it. -/
  settled : (after interpreter source moves).execution.isFinished = false →
    ∀ ticket request, (after interpreter source moves).broker.slot = some (ticket, request) →
      (after interpreter source moves).execution.close.broker.slot = none ∧
      (after interpreter source moves).execution.close.broker.settled =
        (ticket, .ok .nil) :: (after interpreter source moves).broker.settled
  /-- The request that the script waits for is settled with nil if it is still open, and keeps its
  outcome if it is not. -/
  own : ∀ ticket resume,
    (after interpreter source moves).execution.task = .waiting ticket resume →
      (∃ own, (after interpreter source moves).broker.slot = some (ticket, own)) ∧
          (after interpreter source moves).execution.close.broker.settled.lookup ticket =
            some (.ok .nil) ∨
        ∃ outcome, (after interpreter source moves).broker.settled.lookup ticket = some outcome ∧
          (after interpreter source moves).execution.close.broker.settled.lookup ticket =
            some outcome
  /-- The requests of others stay as they are if the host has just gone on with the script, or if
  nothing was open and the host has opened nothing. -/
  others : (∃ earlier last, moves = earlier ++ [last] ∧ last.polls) ∨
      interpreter.broker.slot = none ∧ (∀ wanted, .broker (.request wanted) ∉ moves) →
    ∀ ticket ∈ (after interpreter source moves).tickets,
      (after interpreter source moves).execution.close.broker.settled.lookup ticket =
          (after interpreter source moves).broker.settled.lookup ticket ∧
        ∀ request, (after interpreter source moves).broker.slot = some (ticket, request) →
          (after interpreter source moves).execution.close.broker.slot = some (ticket, request)

/-- A script that is left gives up at most the request that is open. -/
theorem left_after (interpreter : Interpreter) (source : String) (moves : List Move) :
    Left interpreter source moves where
  session := session_close _
  config := config_close _
  finished := close_of_finished
  idle := close_of_slot_none
  settled hunfinished _ _ hslot := broker_close_of_slot hunfinished hslot
  own _ _ htask := (sound_after interpreter source moves).own_of_close htask
  others := by
    intro hhost ticket hticket
    refine (sound_after interpreter source moves).others_of_close (fun hunfinished => ?_) hticket
    rcases hhost with ⟨earlier, last, rfl, hpolls⟩ | ⟨hslot, hmoves⟩
    · rw [after_concat] at hunfinished ⊢
      exact ((sound_after interpreter source earlier).polled hpolls).quiet hunfinished
    · exact quiet_after hslot hmoves

/-- A script that waits is left after somebody else has opened a request: it gives up that one. -/
theorem not_close_spares_others :
    ¬∀ interpreter source moves, ∀ ticket ∈ (after interpreter source moves).tickets,
      ∀ request, (after interpreter source moves).broker.slot = some (ticket, request) →
        (after interpreter source moves).execution.close.broker.slot = some (ticket, request) := by
  intro h
  let moves : List Move := [.step, .broker (.request ⟨.real, "outside", none⟩)]
  let dialogue := after (.new .default) "(getint)" moves
  have hticket : 1 ∈ dialogue.tickets := by decide +kernel
  have hslot : dialogue.broker.slot = some (1, ⟨.real, "outside", none⟩) := by decide +kernel
  have hclosed : dialogue.execution.close.broker.slot = none := by decide +kernel
  have hspared := h (.new .default) "(getint)" moves 1 hticket _ hslot
  rw [hclosed] at hspared
  cases hspared

end Dialogue

end DraftLisp

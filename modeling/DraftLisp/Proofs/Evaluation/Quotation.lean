import DraftLisp.Proofs.Evaluation.Calls
import DraftLisp.Proofs.Evaluation.Rewritten

/-!
Data has no empty list but `nil`, so that quotation puts `NIL` for every empty list, and `EVAL`
works in a copy of the variables of its caller.
-/

namespace DraftLisp

/-- `(EVAL (QUOTE form))` -/
def Form.evaluated (form : Form) : Form :=
  .list [.symbol "EVAL", form.quoted]

section

variable {rounds limit room : Nat}

/-- The form is one level below the operand of the call, and so two below the call. -/
theorem eval_evaluated (form : Form) (state : State) :
    eval rounds limit (room + 2) 0 form.evaluated state =
      (eval rounds limit room 0 form.nilled state).mapState fun after =>
        { after with frame := state.frame } := by
  have hquoted : eval rounds limit (room + 1) 0 form.quoted = pure (.ofForm form) := rfl
  rw [Form.evaluated, eval_call_builtin Builtin.controls[2] rfl rfl]
  simp only [Comp.mapAll, hquoted, pure_bind]
  rw [apply_eval rfl rfl]
  simp only [Value.form?_ofForm]
  rfl

theorem standing_eval_evaluated (form : Form) (state : State) (responses : List Response) :
    ((eval rounds limit (room + 2) 0 form.evaluated state).answered responses).standing =
      ((eval rounds limit room 0 form.nilled state).answered responses).standing.mapState
        fun after => { after with frame := state.frame } := by
  rw [eval_evaluated, Run.answered_mapState, Run.standing_mapState]

theorem standing_evaluated_nilled (form : Form) (state : State) (responses : List Response)
    (hdeep : ¬((eval rounds limit room 0 form.evaluated state).answered
      responses).standing.TooDeep) :
    ((eval rounds limit room 0 form.evaluated state).answered responses).standing =
      ((eval rounds limit room 0 form.nilled state).answered responses).standing.mapState
        fun after => { after with frame := state.frame } := by
  obtain hroom | hroom := Nat.lt_or_ge room 2
  · exact (hdeep (tooDeep_call rfl hroom _ _ state responses)).elim
  · obtain ⟨room, rfl⟩ := Nat.exists_eq_add_of_le' hroom
    rw [standing_eval_evaluated] at hdeep ⊢
    have hinner := standing_eq_of_room_le rounds (Nat.le_add_right room 2) 0 form.nilled state
      responses fun h => hdeep (h.mapState _)
    rw [hinner]

end

/-- `(SETQ () 1)` -/
def assignsEmpty : Form :=
  .list [.symbol "SETQ", .list [], .number 1]

/-- The target of an assignment is not evaluated: an empty list is no name, and `NIL` is the name of
a constant. -/
theorem not_standing_evaluated :
    ¬∀ (rounds limit room : Nat) (form : Form) (state : State) (responses : List Response),
      ¬((eval rounds limit room 0 form.evaluated state).answered responses).standing.TooDeep →
      ¬((eval rounds limit room 0 form state).answered responses).standing.TooDeep →
      ((eval rounds limit room 0 form.evaluated state).answered responses).standing =
        ((eval rounds limit room 0 form state).answered responses).standing.mapState
          fun after => { after with frame := state.frame } := by
  intro h
  have hquoted : ((eval 1 4 4 0 assignsEmpty.evaluated default).answered []).standing =
      .ended (.error (.error (.eval (.constant "NIL")))) default :=
    standing_eval_evaluated assignsEmpty default []
  have hdirect : ((eval 1 4 4 0 assignsEmpty default).answered []).standing =
      .ended (.error (.error (.syntactic (.notSymbol "setq" (.list []))))) default := rfl
  have hsame := h 1 4 4 assignsEmpty default []
  rw [hquoted, hdirect] at hsame
  have hended := hsame (by rintro ⟨_, _, hdepth⟩; cases hdepth)
    (by rintro ⟨_, _, hdepth⟩; cases hdepth)
  cases hended

/-- `EVAL` of a quoted form that is not cut off at the limit on the depth makes the same requests,
leaves the same state and ends with the same value or error as the form with `NIL` for every empty
list, but for the variables of the caller, which are as they were. It goes as the form itself if
empty lists stand only where they mean `nil`. -/
theorem standing_evaluated (rounds limit room : Nat) (form : Form) (state : State)
    (responses : List Response)
    (hdeep : ¬((eval rounds limit room 0 form.evaluated state).answered
      responses).standing.TooDeep) :
    ((eval rounds limit room 0 form.evaluated state).answered responses).standing =
        ((eval rounds limit room 0 form.nilled state).answered responses).standing.mapState
          (fun after => { after with frame := state.frame }) ∧
      (form.Indifferent →
        ((eval rounds limit room 0 form.evaluated state).answered responses).standing =
          ((eval rounds limit room 0 form state).answered responses).standing.mapState
            fun after => { after with frame := state.frame }) := by
  have hnilled := standing_evaluated_nilled form state responses hdeep
  refine ⟨hnilled, fun h => ?_⟩
  rw [hnilled, eval_nilled rounds limit room 0 h]

/-- `(IF () "no" (FOREACH X (QUOTE (() "a")) X))` -/
def choosesLoop : Form :=
  .list [.symbol "IF", .list [], .string "no",
    .list [.symbol "FOREACH", .symbol "X", (Form.list [.list [], .string "a"]).quoted, .symbol "X"]]

theorem indifferent_choosesLoop : choosesLoop.Indifferent := by
  have hname : SpecialForm.ofName? "IF" = some .conditional := rfl
  refine .evaluated hname (by decide) (by decide) ?_
  simp only [List.forall_mem_cons, List.not_mem_nil, false_imp_iff, implies_true, and_true]
  refine ⟨.empty, .full rfl, .foreach rfl (.quoted _) ?_⟩
  simp only [List.forall_mem_cons, List.not_mem_nil, false_imp_iff, implies_true, and_true]
  exact .full rfl

/-- The loop assigns `X`, and the caller has the `X` of before. -/
theorem standing_evaluated_loop :
    ¬((eval 1 7 7 0 choosesLoop.evaluated boundX).answered []).standing.TooDeep ∧
      choosesLoop.Indifferent ∧
      ((eval 1 7 7 0 choosesLoop.evaluated boundX).answered []).standing =
        ((eval 1 7 7 0 choosesLoop.nilled boundX).answered []).standing.mapState
          (fun after => { after with frame := boundX.frame }) ∧
      ((eval 1 7 7 0 choosesLoop.evaluated boundX).answered []).standing =
        ((eval 1 7 7 0 choosesLoop boundX).answered []).standing.mapState
          fun after => { after with frame := boundX.frame } := by
  have hended : ((eval 1 7 7 0 choosesLoop.evaluated boundX).answered []).standing =
      .ended (.ok (.string "a")) boundX :=
    standing_eval_evaluated choosesLoop boundX []
  have hdeep : ¬((eval 1 7 7 0 choosesLoop.evaluated boundX).answered []).standing.TooDeep := by
    rw [hended]
    exact Standing.not_tooDeep_ok _ _
  obtain ⟨hnilled, hself⟩ := standing_evaluated 1 7 7 choosesLoop boundX [] hdeep
  exact ⟨hdeep, indifferent_choosesLoop, hnilled, hself indifferent_choosesLoop⟩

end DraftLisp

import DraftLisp.Proofs.Evaluation.Application
import DraftLisp.Proofs.Evaluation.DepthLimit

namespace DraftLisp

/-- `(APPLY (QUOTE name) (LIST operands…))` -/
def Form.applied (name : String) (operands : List Form) : Form :=
  .list [.symbol "APPLY", (Form.symbol name).quoted, .list (.symbol "LIST" :: operands)]

section

variable {rounds limit room : Nat} {name : String}

/-- A call with an operand takes two levels. -/
theorem tooDeep_call (hname : SpecialForm.ofName? name = none) (h : room < 2) (first : Form)
    (rest : List Form) (state : State) (responses : List Response) :
    ((eval rounds limit room 0 (.list (.symbol name :: first :: rest)) state).answered
      responses).standing.TooDeep := by
  match room, h with
  | 0, _ => exact ⟨limit, state, congrArg Run.standing (Run.answered_done _ state responses)⟩
  | 1, _ =>
      refine ⟨limit, state, ?_⟩
      rw [eval_call hname]
      exact congrArg Run.standing (Run.answered_done _ state responses)

theorem eval_list (operands : List Form) :
    eval rounds limit (room + 1) 0 (.list (.symbol "LIST" :: operands)) = (do
      let values ← Comp.mapAll (eval rounds limit room 0) operands
      return .ofList values) := by
  rw [eval_call_builtin Builtin.lists[7] rfl rfl]
  refine bind_congr fun values => ?_
  rw [apply_pure rfl rfl]
  rfl

theorem eval_quoted_symbol (hnil : name ≠ "NIL") :
    eval rounds limit (room + 1) 0 (Form.symbol name).quoted = pure (.symbol name) := by
  change pure (Value.ofForm (.symbol name)) = _
  rw [Value.ofForm, if_neg hnil]

/-- The operands are one level further in, and the operator is applied one level further in. -/
theorem eval_applied (hname : SpecialForm.ofName? name = none) (hnil : name ≠ "NIL")
    (operands : List Form) :
    eval rounds limit (room + 2) 0 (.applied name operands) =
      eval rounds limit (room + 1) 0 (.list (.symbol name :: operands)) := by
  rw [eval_call hname, Form.applied, eval_call_builtin Builtin.controls[1] rfl rfl]
  simp only [Comp.mapAll, eval_quoted_symbol hnil, eval_list, bind_assoc, pure_bind]
  refine bind_congr fun values => ?_
  rw [apply_apply rfl rfl]
  simp only [Value.items?_ofList]
  exact bind_congr fun outcome => bind_congr fun callable => apply_succ _ _ _ _

end

/-- A name that is applied to the list of its operands, and is not cut off at the limit on the
depth, makes the same requests, leaves the same state and ends with the same value or error as the
call of that name. -/
theorem standing_eq_of_applied {name : String} (hname : SpecialForm.ofName? name = none)
    (hnil : name ≠ "NIL") (rounds limit room : Nat) (operands : List Form) (state : State)
    (responses : List Response)
    (hdeep : ¬((eval rounds limit room 0 (.applied name operands) state).answered
      responses).standing.TooDeep) :
    ((eval rounds limit room 0 (.applied name operands) state).answered responses).standing =
      ((eval rounds limit room 0 (.list (.symbol name :: operands)) state).answered
        responses).standing := by
  obtain hroom | hroom := Nat.lt_or_ge room 2
  · -- Without two levels of room the first operand of `APPLY` is cut off already.
    exact (hdeep (tooDeep_call rfl hroom _ _ state responses)).elim
  · obtain ⟨room, rfl⟩ := Nat.exists_eq_add_of_le' hroom
    rw [eval_applied hname hnil] at hdeep ⊢
    exact (standing_eq_of_room_le rounds (Nat.le_succ _) 0 _ state responses hdeep).symm

/-- `(DEFUN F (X) X)` -/
def definesIdentity : Form :=
  .list [.symbol "DEFUN", .symbol "F", .list [.symbol "X"], .symbol "X"]

def identityNamed : Function := ⟨"F", ["X"], [.symbol "X"]⟩

theorem standing_applied_definesIdentity :
    ((eval 1 4 4 0 (.applied "F" [definesIdentity]) default).answered []).standing =
      .ended (.ok (.symbol "F"))
        { (default : State) with functions := [("F", identityNamed)] } := by
  have hcall : eval 1 4 4 0 (.applied "F" [definesIdentity]) default =
      apply (eval 1 4 2) 1 (.function identityNamed) [.symbol "F"]
        { (default : State) with functions := [("F", identityNamed)] } := by
    rw [eval_applied rfl (by decide), eval_call rfl]
    rfl
  rw [hcall, apply_function]
  rfl

/-- The operand defines the function that is applied to it. -/
theorem standing_eq_of_applied_identity :
    SpecialForm.ofName? "F" = none ∧ "F" ≠ "NIL" ∧
      ¬((eval 1 4 4 0 (.applied "F" [definesIdentity]) default).answered []).standing.TooDeep ∧
      ((eval 1 4 4 0 (.applied "F" [definesIdentity]) default).answered []).standing =
        ((eval 1 4 4 0 (.list [.symbol "F", definesIdentity]) default).answered []).standing := by
  have hname : SpecialForm.ofName? "F" = none := by decide
  have hnil : "F" ≠ "NIL" := by decide
  have hdeep : ¬((eval 1 4 4 0 (.applied "F" [definesIdentity]) default).answered
      []).standing.TooDeep := by
    rw [standing_applied_definesIdentity]
    exact Standing.not_tooDeep_ok _ _
  exact ⟨hname, hnil, hdeep, standing_eq_of_applied hname hnil 1 4 4 _ default [] hdeep⟩

end DraftLisp

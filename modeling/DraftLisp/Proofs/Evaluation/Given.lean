import DraftLisp.Proofs.Evaluation.Calls

namespace DraftLisp

/-- The form has a value and changes nothing, given so many levels of room. -/
def Form.Gives (state : State) (level : Nat) (form : Form) (value : Value) : Prop :=
  ∀ rounds limit room, level ≤ room → eval rounds limit room 0 form state = .done (.ok value) state

section Gives

variable {state : State} {level : Nat}

theorem Form.gives_one {form : Form} {value : Value}
    (h : ∀ rounds limit room, eval rounds limit (room + 1) 0 form state = .done (.ok value) state) :
    form.Gives state 1 value := by
  intro rounds limit room hroom
  obtain ⟨room, rfl⟩ := Nat.exists_eq_add_of_le' hroom
  exact h rounds limit room

theorem Form.gives_symbol (state : State) (name : String) :
    Form.Gives state 1 (.symbol name) (state.lookup name) :=
  Form.gives_one fun _ _ _ => rfl

theorem Form.gives_number (state : State) (x : Float) :
    Form.Gives state 1 (.number x) (.number x) :=
  Form.gives_one fun _ _ _ => rfl

theorem Form.gives_string (state : State) (text : String) :
    Form.Gives state 1 (.string text) (.string text) :=
  Form.gives_one fun _ _ _ => rfl

theorem Form.Gives.mono {form : Form} {value : Value} {deeper : Nat}
    (h : form.Gives state level value) (hlevel : level ≤ deeper) :
    form.Gives state deeper value :=
  fun rounds limit room hroom => h rounds limit room (Nat.le_trans hlevel hroom)

theorem Form.Gives.unique {form : Form} {value other : Value} (h : form.Gives state level value)
    (hother : form.Gives state level other) : value = other :=
  Except.ok.inj (Run.done.inj ((h 0 0 level (Nat.le_refl level)).symm.trans
    (hother 0 0 level (Nat.le_refl level)))).1

theorem mapAll_gives {operands : List Form} {values : List Value}
    (h : List.Forall₂ (Form.Gives state level) operands values) (rounds limit : Nat) {room : Nat}
    (hroom : level ≤ room) :
    Comp.mapAll (eval rounds limit room 0) operands state = .done (.ok values) state := by
  induction h with
  | nil => rfl
  | cons hfirst _ ih =>
      rw [Comp.mapAll, Comp.bind_apply, hfirst rounds limit room hroom]
      change (Comp.mapAll (eval rounds limit room 0) _ >>= _) state = _
      rw [Comp.bind_apply, ih]
      rfl

/-- A call is what the operator makes of the values of the operands. -/
theorem eval_call_gives (operator : Builtin) {operands : List Form} {values : List Value}
    (hname : SpecialForm.ofName? operator.name = none)
    (hfind : Builtin.find? operator.name = some operator)
    (h : List.Forall₂ (Form.Gives state level) operands values) (rounds limit : Nat) {room : Nat}
    (hroom : level ≤ room) :
    eval rounds limit (room + 1) 0 (.list (.symbol operator.name :: operands)) state =
      apply (eval rounds limit room) 1 (.builtin operator) values state := by
  rw [eval_call_builtin operator hname hfind, Comp.bind_apply, mapAll_gives h rounds limit hroom]
  rfl

theorem Form.gives_call (operator : Builtin) {operands : List Form} {values : List Value}
    {value : Value} (hname : SpecialForm.ofName? operator.name = none)
    (hfind : Builtin.find? operator.name = some operator)
    (h : List.Forall₂ (Form.Gives state level) operands values)
    (happly : ∀ ev, apply ev 1 (.builtin operator) values state = .done (.ok value) state) :
    Form.Gives state (level + 1) (.list (.symbol operator.name :: operands)) value := by
  intro rounds limit room hroom
  obtain ⟨more, rfl⟩ := Nat.exists_eq_add_of_le' (Nat.le_of_add_left_le hroom)
  rw [eval_call_gives operator hname hfind h rounds limit (Nat.le_of_add_le_add_right hroom)]
  exact happly _

/-- An operator that only looks at its operands changes nothing. -/
theorem Form.gives_pure (operator : Builtin) {run : List Value → Except Halt Value}
    {operands : List Form} {values : List Value} {value : Value}
    (hname : SpecialForm.ofName? operator.name = none)
    (hfind : Builtin.find? operator.name = some operator)
    (haction : operator.action = .pure run)
    (hcheck : operator.arity.check values.length = .ok ())
    (h : List.Forall₂ (Form.Gives state level) operands values) (hrun : run values = .ok value) :
    Form.Gives state (level + 1) (.list (.symbol operator.name :: operands)) value := by
  refine Form.gives_call operator hname hfind h fun ev => ?_
  rw [apply_pure hcheck haction, hrun]
  rfl

end Gives

end DraftLisp

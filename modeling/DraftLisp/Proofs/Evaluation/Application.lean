import DraftLisp.Evaluation

namespace DraftLisp

namespace Comp

theorem mapAll_map (run : β → Comp γ) (change : α → β) (items : List α) :
    mapAll run (items.map change) = mapAll (fun item => run (change item)) items := by
  induction items with
  | nil => rfl
  | cons item rest ih => simp only [List.map_cons, mapAll, ih]

theorem mapAll_attach (run : α → Comp β) (items : List α) :
    mapAll (fun item : { item // item ∈ items } => run item.val) items.attach =
      mapAll run items := by
  rw [← mapAll_map run Subtype.val items.attach, List.attach_map_subtype_val]

theorem mapAll_congr {run other : α → Comp β} {items : List α}
    (h : ∀ item ∈ items, run item = other item) : mapAll run items = mapAll other items := by
  induction items with
  | nil => rfl
  | cons item rest ih =>
      rw [List.forall_mem_cons] at h
      rw [mapAll, mapAll, h.1, ih h.2]

end Comp

variable {ev : Evaluator} {level : Nat} {operator : Builtin}

theorem apply_closure (params : List String) (body : List Form) (captured : Bindings Value)
    (operands : List Value) :
    apply ev level (.closure params body captured) operands =
      .within (Callable.bindParams captured params operands) (evalBody (ev level) .nil body) := by
  rw [apply.eq_def]

theorem apply_function (function : Function) (operands : List Value) :
    apply ev level (.function function) operands = (do
      let frame ← Comp.observe (·.frame)
      .within (Callable.bindParams frame function.params operands)
        (evalBody (ev level) .nil function.body)) := by
  rw [apply.eq_def]

theorem apply_of_check_error {operands : List Value} {error : Error}
    (hcheck : operator.arity.check operands.length = .error error) :
    apply ev level (.builtin operator) operands = .fail (error.named operator.name) := by
  rw [apply.eq_def]
  simp only [hcheck]

variable {operands : List Value}

theorem apply_pure {run : List Value → Except Halt Value}
    (hcheck : operator.arity.check operands.length = .ok ())
    (haction : operator.action = .pure run) :
    apply ev level (.builtin operator) operands =
      .ofExcept (namingHalt operator.name (run operands)) := by
  rw [apply.eq_def]
  simp only [hcheck, haction]

theorem apply_edit {run : List Value → Edit Value}
    (hcheck : operator.arity.check operands.length = .ok ())
    (haction : operator.action = .edit run) :
    apply ev level (.builtin operator) operands =
      .edit (namingEdit operator.name (run operands)) := by
  rw [apply.eq_def]
  simp only [hcheck, haction]

theorem apply_input {ask : List Value → Drawing → Except Error Demand}
    (hcheck : operator.arity.check operands.length = .ok ())
    (haction : operator.action = .input ask) :
    apply ev level (.builtin operator) operands = (do
      let drawing ← Comp.observe (·.drawing)
      match ask operands drawing with
      | .ok (.answered value) => pure value
      | .ok (.asked request) => .request request
      | .error error => .fail (error.named operator.name)) := by
  have happly := apply.eq_def ev level (.builtin operator) operands
  simp only [hcheck, haction] at happly
  exact happly

theorem apply_eval (haction : operator.action = .control .eval) :
    operator.arity.check operands.length = .ok () →
      apply ev level (.builtin operator) operands =
        match operands with
        | [value] =>
          match value.form? with
          | none => pure value
          | some form => do
            let frame ← Comp.observe (·.frame)
            .within frame (ev level form)
        | _ => .fail (.arity 1 operands.length none) := by
  intro hcheck
  have happly := apply.eq_def ev level (.builtin operator) operands
  simp only [hcheck, haction] at happly
  refine happly.trans ?_
  rcases operands with _ | ⟨value, _ | ⟨other, rest⟩⟩ <;> rfl

theorem apply_apply (haction : operator.action = .control .apply) :
    operator.arity.check operands.length = .ok () →
      apply ev level (.builtin operator) operands =
        match operands with
        | [head, list] => do
          let callable ← Comp.observe (Callable.ofValue · head)
          let callable ← Comp.ofResult callable
          match list.items? with
          | none => .fail (.type (.expected "list" list))
          | some items => apply ev (level + 1) callable items
        | _ => .fail (.arity 2 operands.length none) := by
  intro hcheck
  rw [apply.eq_def]
  simp only [hcheck, haction]
  rcases operands with _ | ⟨head, _ | ⟨list, _ | ⟨other, rest⟩⟩⟩
  · rfl
  · rfl
  · simp only
    refine bind_congr fun _ => bind_congr fun callable => ?_
    split
    · rename_i hitems
      rw [hitems]
    · rename_i hitems
      rw [hitems]
  · rfl

theorem apply_mapcar (haction : operator.action = .control .mapcar) :
    operator.arity.check operands.length = .ok () →
      apply ev level (.builtin operator) operands =
        match operands with
        | head :: lists => do
          let callable ← Comp.observe (Callable.ofValue · head)
          let callable ← Comp.ofResult callable
          match lists.mapM Value.expectList with
          | .error error => .fail error
          | .ok rows =>
            let values ← Comp.mapAll (apply ev (level + 1) callable) (columns rows)
            return .ofList values
        | _ => .fail (.arity 2 operands.length none) := by
  intro hcheck
  rw [apply.eq_def]
  simp only [hcheck, haction]
  rcases operands with _ | ⟨head, lists⟩
  · rfl
  · simp only
    refine bind_congr fun _ => bind_congr fun callable => ?_
    split
    · rename_i hrows
      rw [hrows]
    · rename_i rows hrows
      rw [hrows]
      exact congrArg (· >>= fun values => pure (Value.ofList values))
        (Comp.mapAll_attach (apply ev (level + 1) callable) (columns rows))

/-- To apply an operator one level deeper is to apply it with an evaluator that starts there. -/
theorem apply_succ (ev : Evaluator) (level : Nat) (callable : Callable) (operands : List Value) :
    apply ev (level + 1) callable operands =
      apply (fun level => ev (level + 1)) level callable operands := by
  induction level, callable, operands using apply.induct with
  | case1 level operands params body captured => rw [apply_closure, apply_closure]
  | case2 level operands function => rw [apply_function, apply_function]
  | case3 level operands operator error hcheck =>
      rw [apply_of_check_error hcheck, apply_of_check_error hcheck]
  | case4 level operands operator hcheck run haction =>
      rw [apply_pure hcheck haction, apply_pure hcheck haction]
  | case5 level operands operator hcheck run haction =>
      rw [apply_edit hcheck haction, apply_edit hcheck haction]
  | case6 level operands operator hcheck ask haction =>
      rw [apply_input hcheck haction, apply_input hcheck haction]
  | case7 level operator haction value hform hcheck =>
      rw [apply_eval haction hcheck, apply_eval haction hcheck]
  | case8 level operator haction value form hform hcheck =>
      rw [apply_eval haction hcheck, apply_eval haction hcheck]
  | case9 level operands operator hcheck haction hshape =>
      rw [apply_eval haction hcheck, apply_eval haction hcheck]
  | case10 level operator haction head list hcheck ih =>
      -- Only here and in `MAPCAR` does the level matter beyond the evaluator.
      rw [apply_apply haction hcheck, apply_apply haction hcheck]
      refine bind_congr fun _ => bind_congr fun callable => ?_
      cases hitems : list.items? with
      | none => rfl
      | some items => exact ih callable items hitems
  | case11 level operands operator hcheck haction hshape =>
      rw [apply_apply haction hcheck, apply_apply haction hcheck]
      split
      · exact (hshape _ _ rfl).elim
      · rfl
  | case12 level operator haction head lists hcheck ih =>
      rw [apply_mapcar haction hcheck, apply_mapcar haction hcheck]
      refine bind_congr fun _ => bind_congr fun callable => ?_
      cases hrows : lists.mapM Value.expectList with
      | error error => rfl
      | ok rows =>
          have hcolumns := Comp.mapAll_congr fun column hcolumn =>
            ih callable rows hrows column hcolumn
          simp only [hcolumns]
  | case13 level operands operator hcheck haction hshape =>
      rw [apply_mapcar haction hcheck, apply_mapcar haction hcheck]
      split
      · exact (hshape _ _ rfl).elim
      · rfl

/-- The operator with a name, on operands that have been evaluated. -/
def callNamed (ev : Evaluator) (level : Nat) (name : String) (operands : List Value) :
    Comp Value := do
  let callable ← Comp.observe (Callable.ofName · name)
  let callable ← Comp.ofResult callable
  apply ev level callable operands

theorem Callable.ofName_of_find? {name : String} {operator : Builtin}
    (h : Builtin.find? name = some operator) (state : State) :
    Callable.ofName state name = .ok (.builtin operator) := by
  rw [Callable.ofName, Callable.ofName?, h]

section Named

variable (ev level) {name : String}

theorem callNamed_eq_apply (hfind : Builtin.find? name = some operator) (operands : List Value) :
    callNamed ev level name operands = apply ev level (.builtin operator) operands := by
  have hcallable : (Callable.ofName · name) = fun _ => .ok (.builtin operator) :=
    funext (Callable.ofName_of_find? hfind)
  unfold callNamed
  rw [hcallable]
  rfl

theorem callNamed_edit {run : List Value → Edit Value} (hfind : Builtin.find? name = some operator)
    (haction : operator.action = .edit run)
    (hcheck : operator.arity.check operands.length = .ok ()) :
    callNamed ev level name operands = .edit (namingEdit operator.name (run operands)) :=
  (callNamed_eq_apply ev level hfind operands).trans (apply_edit hcheck haction)

theorem callNamed_pure {run : List Value → Except Halt Value}
    (hfind : Builtin.find? name = some operator) (haction : operator.action = .pure run)
    (hcheck : operator.arity.check operands.length = .ok ()) :
    callNamed ev level name operands = .ofExcept (namingHalt operator.name (run operands)) :=
  (callNamed_eq_apply ev level hfind operands).trans (apply_pure hcheck haction)

theorem callNamed_ok {run : List Value → Except Error Value} {value : Value}
    (hfind : Builtin.find? name = some operator)
    (haction : operator.action = .pure fun operands => Builtin.halting (run operands))
    (hcheck : operator.arity.check operands.length = .ok ()) (hrun : run operands = .ok value)
    (state : State) : callNamed ev level name operands state = .done (.ok value) state := by
  rw [callNamed_pure ev level hfind haction hcheck, hrun]
  rfl

theorem callNamed_answered {ask : List Value → Drawing → Except Error Demand} {value : Value}
    {state : State} (hfind : Builtin.find? name = some operator)
    (haction : operator.action = .input ask)
    (hcheck : operator.arity.check operands.length = .ok ())
    (hask : ask operands state.drawing = .ok (.answered value)) :
    callNamed ev level name operands state = .done (.ok value) state := by
  rw [callNamed_eq_apply ev level hfind, apply_input hcheck haction, Comp.bind_apply]
  simp only [Comp.observe, Run.bind, hask]
  rfl

end Named

section Forms

variable {rounds limit room : Nat} {name : String}

theorem eval_call (hname : SpecialForm.ofName? name = none) (operands : List Form) :
    eval rounds limit (room + 1) 0 (.list (.symbol name :: operands)) = (do
      let values ← Comp.mapAll (eval rounds limit room 0) operands
      let callable ← Comp.observe (Callable.ofName · name)
      let callable ← Comp.ofResult callable
      apply (eval rounds limit room) 1 callable values) := by
  have hhead : (Form.symbol name).symbol?.bind SpecialForm.ofName? = none := hname
  rw [eval, evalForm, hhead]
  rfl

theorem eval_call_builtin (operator : Builtin) (hname : SpecialForm.ofName? name = none)
    (hfind : Builtin.find? name = some operator) (operands : List Form) :
    eval rounds limit (room + 1) 0 (.list (.symbol name :: operands)) = (do
      let values ← Comp.mapAll (eval rounds limit room 0) operands
      apply (eval rounds limit room) 1 (.builtin operator) values) := by
  have hcallable : (Callable.ofName · name) = fun _ => .ok (.builtin operator) :=
    funext (Callable.ofName_of_find? hfind)
  rw [eval_call hname, hcallable]
  rfl

end Forms

/-- An application that leaves it to `call` to apply the operator. -/
def evalApplicationWith (ev : Evaluator) (call : Callable → List Value → Comp Value) (head : Form)
    (operands : List Form) : Comp Value := do
  let values ← Comp.mapAll (ev 0) operands
  let callable ← match head with
    | .symbol name => Comp.observe (Callable.ofName · name)
    | head => do
      let value ← ev 0 head
      Comp.observe (Callable.ofValue · value)
  let callable ← Comp.ofResult callable
  call callable values

theorem evalApplicationWith_eq {call : Callable → List Value → Comp Value} {name : String}
    {forms : List Form} {state after : State} {callable : Callable}
    (hvalues : Comp.mapAll (ev 0) forms state = .done (.ok operands) after)
    (hcallable : Callable.ofName after name = .ok callable) :
    evalApplicationWith ev call (.symbol name) forms state = call callable operands after := by
  unfold evalApplicationWith
  rw [Comp.bind_apply, hvalues]
  change ((Comp.observe (Callable.ofName · name) >>= fun result => Comp.ofResult result >>= _)
    after) = _
  rw [Comp.bind_apply]
  change ((Comp.ofResult (Callable.ofName after name) >>= _) after) = _
  rw [hcallable]
  rfl

theorem evalApplicationWith_apply (ev : Evaluator) (head : Form) (forms : List Form) :
    evalApplicationWith ev (apply ev 1) head forms = evalApplication ev head forms :=
  rfl

end DraftLisp

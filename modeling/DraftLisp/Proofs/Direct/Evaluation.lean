import DraftLisp.Interpreter
import DraftLisp.Proofs.Direct.Tape

namespace DraftLisp

abbrev Direct.Evaluator := Nat → Form → Direct Value

namespace Direct

section Definitions

variable (ev : Form → Direct Value)

def evalBody (last : Value) : List Form → Direct Value
  | [] => pure last
  | form :: rest => do
    let value ← ev form
    evalBody value rest

def makeClosure (parameters : Form) (body : List Form) : Direct Value := do
  let params ← ofResult (Callable.params "lambda" parameters)
  let value ← observe fun state => .closure state.nextClosure params body state.snapshot
  modify fun state => { state with nextClosure := state.nextClosure + 1 }
  return value

def nameFunction (form : Form) : Direct Value :=
  match form with
  | .symbol name => pure (.symbol name)
  | .list (.symbol "LAMBDA" :: _) => ev form
  | form => pure (.ofForm form)

def assign (last : Value) : List Form → Direct Value
  | target :: form :: rest => do
    let name ← ofResult (SpecialForm.assignable target)
    let value ← ev form
    modify fun state => { state with globals := state.globals.put name value }
    assign value rest
  | _ => pure last

def assignPairs (operands : List Form) : Direct Value :=
  match operands.getLast? with
  | some form =>
    if operands.length % 2 = 1 then fail (.syntactic (.noValue form)) else assign ev .nil operands
  | none => pure .nil

def choose : List Form → Direct Value
  | [] => pure .nil
  | .list [] :: rest => choose rest
  | .list (test :: body) :: rest => do
    let verdict ← ev test
    if verdict.isTruthy then evalBody ev verdict body else choose rest
  | form :: _ => fail (.syntactic (.notClause form))

def loopWhile (test : Form) (body : List Form) (last : Value) : (rounds : Nat) → Direct Value
  | 0 => halt .endless
  | rounds + 1 => do
    let verdict ← ev test
    if verdict.isTruthy then
      let value ← evalBody ev .nil body
      loopWhile test body value rounds
    else pure last

def loopTimes (body : List Form) (last : Value) : (rounds : Nat) → Direct Value
  | 0 => pure last
  | rounds + 1 => do
    let value ← evalBody ev .nil body
    loopTimes body value rounds

def loopOver (name : String) (body : List Form) (last : Value) : List Value → Direct Value
  | [] => pure last
  | item :: rest => do
    modify fun state => { state with frame := state.frame.put name item }
    let value ← evalBody ev .nil body
    loopOver name body value rest

def repeatBody (count : Form) (body : List Form) : Direct Value := do
  let value ← ev count
  match value.number? with
  | none => fail (.type (.operand "repeat" "number" value))
  | some times => loopTimes ev body .nil (Numeric.toInt64 times).toNat

def foreachItem (target list : Form) (body : List Form) : Direct Value := do
  match target with
  | .symbol name =>
    let value ← ev list
    match value.items? with
    | none => fail (.type (.operand "foreach" "list" value))
    | some items => loopOver ev name body .nil items
  | form => fail (.syntactic (.notSymbol "foreach" form))

def define (name parameters : Form) (body : List Form) : Direct Value := do
  match name with
  | .symbol name =>
    let params ← ofResult (Callable.params "defun" parameters)
    modify fun state => { state with functions := state.functions.put name ⟨name, params, body⟩ }
    return .symbol name
  | form => fail (.syntactic (.notFunctionName form))

def allTrue : List Form → Direct Value
  | [] => pure .truth
  | form :: rest => do
    let value ← ev form
    if value.isTruthy then allTrue rest else pure .nil

def firstTrue : List Form → Direct Value
  | [] => pure .nil
  | form :: rest => do
    let value ← ev form
    if value.isTruthy then pure value else firstTrue rest

def action? (rounds : Nat) (special : SpecialForm) (operands : List Form) :
    Option (Direct Value) :=
  match special, operands with
  | .quote, [form] => some (pure (.ofForm form))
  | .function, [form] => some (nameFunction ev form)
  | .setq, operands => some (assignPairs ev operands)
  | .conditional, [test, yes] => some do
    if (← ev test).isTruthy then ev yes else pure .nil
  | .conditional, [test, yes, no] => some do
    if (← ev test).isTruthy then ev yes else ev no
  | .cond, clauses => some (choose ev clauses)
  | .whileLoop, test :: body => some (loopWhile ev test body .nil rounds)
  | .repeatLoop, count :: body => some (repeatBody ev count body)
  | .foreach, target :: list :: body => some (foreachItem ev target list body)
  | .progn, body => some (evalBody ev .nil body)
  | .defun, name :: parameters :: body => some (define name parameters body)
  | .lambda, parameters :: body => some (makeClosure parameters body)
  | .and, operands => some (allTrue ev operands)
  | .or, operands => some (firstTrue ev operands)
  | _, _ => none

end Definitions

def apply (ev : Evaluator) (level : Nat) (callable : Callable) (operands : List Value) :
    Direct Value :=
  match callable with
  | .closure params body captured =>
    within (Callable.bindParams captured params operands) (evalBody (ev level) .nil body)
  | .function function => do
    let frame ← observe (·.frame)
    within (Callable.bindParams frame function.params operands)
      (evalBody (ev level) .nil function.body)
  | .builtin operator =>
    match operator.arity.check operands.length with
    | .error error => fail (error.named operator.name)
    | .ok () =>
      match operator.action with
      | .pure run => ofExcept (namingHalt operator.name (run operands))
      | .edit run => edit (namingEdit operator.name (run operands))
      | .input ask => do
        let drawing ← observe (·.drawing)
        match ask operands drawing with
        | .ok (.answered value) => pure value
        | .ok (.asked wanted) => request wanted
        | .error error => fail (error.named operator.name)
      | .control .eval =>
        match operands with
        | [value] =>
          match value.form? with
          | none => pure value
          | some form => do
            let frame ← observe (·.frame)
            within frame (ev level form)
        | _ => fail (.arity 1 operands.length none)
      | .control .apply =>
        match operands with
        | [head, list] => do
          let callable ← observe (Callable.ofValue · head)
          let callable ← ofResult callable
          match _hitems : list.items? with
          | none => fail (.type (.expected "list" list))
          | some items => apply ev (level + 1) callable items
        | _ => fail (.arity 2 operands.length none)
      | .control .mapcar =>
        match operands with
        | head :: lists => do
          let callable ← observe (Callable.ofValue · head)
          let callable ← ofResult callable
          match _hrows : lists.mapM Value.expectList with
          | .error error => fail error
          | .ok rows =>
            let values ← mapAll
              (fun ⟨column, _hcolumn⟩ => apply ev (level + 1) callable column)
              (columns rows).attach
            return .ofList values
        | _ => fail (.arity 2 operands.length none)
termination_by sizeOf operands
decreasing_by
  · have := sizeOf_items_lt _hitems
    simp only [List.cons.sizeOf_spec, List.nil.sizeOf_spec]
    omega
  · obtain ⟨i, rfl⟩ := mem_columns _hcolumn
    have := sizeOf_column_le _hrows i
    simp only [List.cons.sizeOf_spec]
    omega

def evalApplication (ev : Evaluator) (head : Form) (operands : List Form) : Direct Value := do
  let values ← mapAll (ev 0) operands
  let callable ← match head with
    | .symbol name => observe (Callable.ofName · name)
    | head => do
      let value ← ev 0 head
      observe (Callable.ofValue · value)
  let callable ← ofResult callable
  apply ev 1 callable values

def evalForm (rounds : Nat) (ev : Evaluator) (form : Form) : Direct Value :=
  match form with
  | .number value => pure (.number value)
  | .string text => pure (.string text)
  | .symbol name => observe (·.lookup name)
  | .list [] => pure .nil
  | .list (head :: operands) =>
    match head.symbol?.bind SpecialForm.ofName? with
    | none => evalApplication ev head operands
    | some special =>
      match action? (ev 0) rounds special operands with
      | some action => action
      | none => fail (.syntactic (.operandCount (head.symbol?.getD "") operands.length form))

def eval (rounds limit : Nat) : (room : Nat) → Evaluator
  | 0, _, _ => fail (.eval (.depth limit))
  | room + 1, 0, form => evalForm rounds (eval rounds limit room) form
  | room + 1, level + 1, form => eval rounds limit room level form

def evalProgram (rounds limit : Nat) (forms : List Form) : Direct Value :=
  evalBody (fun form => within [] (eval rounds limit limit 0 form)) .nil forms

section SpecialForms

variable {ev : Form → Direct Value} {ev' : Form → Comp Value}
  (hev : ∀ form, Replays (ev form) (ev' form))

include hev

theorem replays_evalBody (last : Value) (forms : List Form) :
    Replays (evalBody ev last forms) (DraftLisp.evalBody ev' last forms) := by
  induction forms generalizing last with
  | nil => exact replays_pure last
  | cons form rest ih => exact (hev form).bind fun value => ih value

omit hev in
theorem replays_makeClosure (parameters : Form) (body : List Form) :
    Replays (makeClosure parameters body) (SpecialForm.makeClosure parameters body) :=
  (replays_ofResult _).bind fun _ _ => rfl

theorem replays_nameFunction (form : Form) :
    Replays (nameFunction ev form) (SpecialForm.nameFunction ev' form) := by
  fun_cases nameFunction ev form with
  | case1 name => exact replays_pure _
  | case2 tail => exact hev _
  | case3 _ hname hlambda =>
      rw [SpecialForm.nameFunction]
      · exact replays_pure _
      · exact hname
      · exact hlambda

theorem replays_assign (last : Value) (operands : List Form) :
    Replays (assign ev last operands) (SpecialForm.assign ev' last operands) := by
  fun_induction assign ev last operands with
  | case1 last target form rest ih =>
      refine (replays_ofResult _).bind fun name => (hev form).bind fun value => ?_
      exact (replays_modify _).bind fun _ => ih value
  | case2 last operands hshort =>
      rw [SpecialForm.assign]
      · exact replays_pure _
      · exact hshort

theorem replays_assignPairs (operands : List Form) :
    Replays (assignPairs ev operands) (SpecialForm.assignPairs ev' operands) := by
  unfold assignPairs SpecialForm.assignPairs
  cases operands.getLast? with
  | none => exact replays_pure _
  | some form =>
      simp only
      split
      · exact replays_fail _
      · exact replays_assign hev _ _

theorem replays_choose (clauses : List Form) :
    Replays (choose ev clauses) (SpecialForm.choose ev' clauses) := by
  fun_induction choose ev clauses with
  | case1 => exact replays_pure _
  | case2 rest ih => exact ih
  | case3 test body rest ih =>
      refine (hev test).bind fun verdict => ?_
      split
      · exact replays_evalBody hev verdict body
      · exact ih
  | case4 form rest hempty hclause =>
      rw [SpecialForm.choose]
      · exact replays_fail _
      · exact hempty
      · exact hclause

theorem replays_loopWhile (test : Form) (body : List Form) (last : Value) (rounds : Nat) :
    Replays (loopWhile ev test body last rounds)
      (SpecialForm.loopWhile ev' test body last rounds) := by
  induction rounds generalizing last with
  | zero => exact replays_halt .endless
  | succ rounds ih =>
      refine (hev test).bind fun verdict => ?_
      split
      · exact (replays_evalBody hev .nil body).bind fun value => ih value
      · exact replays_pure last

theorem replays_loopTimes (body : List Form) (last : Value) (rounds : Nat) :
    Replays (loopTimes ev body last rounds) (SpecialForm.loopTimes ev' body last rounds) := by
  induction rounds generalizing last with
  | zero => exact replays_pure last
  | succ rounds ih => exact (replays_evalBody hev .nil body).bind fun value => ih value

theorem replays_loopOver (name : String) (body : List Form) (last : Value) (items : List Value) :
    Replays (loopOver ev name body last items)
      (SpecialForm.loopOver ev' name body last items) := by
  induction items generalizing last with
  | nil => exact replays_pure last
  | cons item rest ih =>
      refine (replays_modify _).bind fun _ => ?_
      exact (replays_evalBody hev .nil body).bind fun value => ih value

theorem replays_repeatBody (count : Form) (body : List Form) :
    Replays (repeatBody ev count body) (SpecialForm.repeatBody ev' count body) := by
  refine (hev count).bind fun value => ?_
  cases value.number? with
  | none => exact replays_fail _
  | some times => exact replays_loopTimes hev _ _ _

theorem replays_foreachItem (target list : Form) (body : List Form) :
    Replays (foreachItem ev target list body) (SpecialForm.foreachItem ev' target list body) := by
  cases target with
  | symbol name =>
      refine (hev list).bind fun value => ?_
      cases value.items? with
      | none => exact replays_fail _
      | some items => exact replays_loopOver hev _ _ _ _
  | _ => exact replays_fail _

omit hev in
theorem replays_define (name parameters : Form) (body : List Form) :
    Replays (define name parameters body) (SpecialForm.define name parameters body) := by
  cases name with
  | symbol name =>
      refine (replays_ofResult _).bind fun params => ?_
      exact (replays_modify _).bind fun _ => replays_pure _
  | _ => exact replays_fail _

theorem replays_allTrue (forms : List Form) :
    Replays (allTrue ev forms) (SpecialForm.allTrue ev' forms) := by
  induction forms with
  | nil => exact replays_pure _
  | cons form rest ih =>
      refine (hev form).bind fun value => ?_
      split
      · exact ih
      · exact replays_pure _

theorem replays_firstTrue (forms : List Form) :
    Replays (firstTrue ev forms) (SpecialForm.firstTrue ev' forms) := by
  induction forms with
  | nil => exact replays_pure _
  | cons form rest ih =>
      refine (hev form).bind fun value => ?_
      split
      · exact replays_pure _
      · exact ih

theorem replays_conditional (test yes : Form) {no : Direct Value} {no' : Comp Value}
    (hno : Replays no no') :
    Replays (do if (← ev test).isTruthy then ev yes else no)
      (do if (← ev' test).isTruthy then ev' yes else no') := by
  refine (hev test).bind fun verdict => ?_
  split
  · exact hev yes
  · exact hno

theorem replays_action (rounds : Nat) (special : SpecialForm) (operands : List Form) :
    Option.Rel Replays (action? ev rounds special operands)
      (special.action? rounds ev' operands) := by
  fun_cases action? ev rounds special operands with
  | case1 form => exact .some (replays_pure _)
  | case2 form => exact .some (replays_nameFunction hev form)
  | case3 => exact .some (replays_assignPairs hev operands)
  | case4 test yes => exact .some (replays_conditional hev test _ (replays_pure _))
  | case5 test yes no => exact .some (replays_conditional hev test yes (hev no))
  | case6 => exact .some (replays_choose hev operands)
  | case7 test body => exact .some (replays_loopWhile hev test body .nil rounds)
  | case8 count body => exact .some (replays_repeatBody hev count body)
  | case9 target list body => exact .some (replays_foreachItem hev target list body)
  | case10 => exact .some (replays_evalBody hev .nil operands)
  | case11 name parameters body => exact .some (replays_define name parameters body)
  | case12 parameters body => exact .some (replays_makeClosure parameters body)
  | case13 => exact .some (replays_allTrue hev operands)
  | case14 => exact .some (replays_firstTrue hev operands)
  | case15 =>
      rw [SpecialForm.action?]
      · exact .none
      all_goals assumption

end SpecialForms

section Application

variable {ev : Evaluator} {ev' : DraftLisp.Evaluator}
  (hev : ∀ level form, Replays (ev level form) (ev' level form))

include hev

theorem replays_apply (level : Nat) (callable : Callable) (operands : List Value) :
    Replays (apply ev level callable operands) (DraftLisp.apply ev' level callable operands) := by
  -- The operators APPLY and MAPCAR call `apply` again with parts of their operands.
  induction level, callable, operands using DraftLisp.apply.induct with
  | case1 level operands params body captured =>
      rw [apply.eq_def, apply_closure]
      exact (replays_evalBody (hev level) .nil body).within _
  | case2 level operands function =>
      rw [apply.eq_def, apply_function]
      refine (replays_observe _).bind fun frame => ?_
      exact (replays_evalBody (hev level) .nil function.body).within _
  | case3 level operands operator error hcheck =>
      rw [apply.eq_def, apply_of_check_error hcheck]
      simp only [hcheck]
      exact replays_fail _
  | case4 level operands operator hcheck run haction =>
      rw [apply.eq_def, apply_pure hcheck haction]
      simp only [hcheck, haction]
      exact replays_ofExcept _
  | case5 level operands operator hcheck run haction =>
      rw [apply.eq_def, apply_edit hcheck haction]
      simp only [hcheck, haction]
      exact replays_edit _
  | case6 level operands operator hcheck ask haction =>
      rw [apply.eq_def, apply_input hcheck haction]
      simp only [hcheck, haction]
      refine (replays_observe _).bind fun drawing => ?_
      rcases ask operands drawing with error | value | wanted
      · exact replays_fail _
      · exact replays_pure _
      · exact replays_request wanted
  | case7 level operator haction value hform hcheck =>
      rw [apply.eq_def, apply_eval haction hcheck]
      simp only [hcheck, haction, hform]
      exact replays_pure _
  | case8 level operator haction value form hform hcheck =>
      rw [apply.eq_def, apply_eval haction hcheck]
      simp only [hcheck, haction, hform]
      exact (replays_observe _).bind fun frame => (hev level form).within _
  | case9 level operands operator hcheck haction hshape =>
      rw [apply.eq_def, apply_eval haction hcheck]
      simp only [hcheck, haction]
      rcases operands with _ | ⟨value, _ | ⟨other, rest⟩⟩
      · exact replays_fail _
      · exact (hshape _ rfl).elim
      · exact replays_fail _
  | case10 level operator haction head list hcheck ih =>
      rw [apply.eq_def, apply_apply haction hcheck]
      simp only [hcheck, haction]
      refine (replays_observe _).bind fun found => (replays_ofResult _).bind fun callable => ?_
      cases hitems : list.items? with
      | none => exact replays_fail _
      | some items => exact ih callable items hitems
  | case11 level operands operator hcheck haction hshape =>
      rw [apply.eq_def, apply_apply haction hcheck]
      simp only [hcheck, haction]
      rcases operands with _ | ⟨head, _ | ⟨list, _ | ⟨other, rest⟩⟩⟩
      · exact replays_fail _
      · exact replays_fail _
      · exact (hshape _ _ rfl).elim
      · exact replays_fail _
  | case12 level operator haction head lists hcheck ih =>
      rw [apply.eq_def, apply_mapcar haction hcheck]
      simp only [hcheck, haction]
      refine (replays_observe _).bind fun found => (replays_ofResult _).bind fun callable => ?_
      cases hrows : lists.mapM Value.expectList with
      | error error => exact replays_fail _
      | ok rows =>
          simp only
          rw [← Comp.mapAll_attach (DraftLisp.apply ev' (level + 1) callable) (columns rows)]
          refine (replays_mapAll ?_).bind fun values => replays_pure _
          rintro ⟨column, hcolumn⟩ -
          exact ih callable rows hrows column hcolumn
  | case13 level operands operator hcheck haction hshape =>
      rw [apply.eq_def, apply_mapcar haction hcheck]
      simp only [hcheck, haction]
      rcases operands with _ | ⟨head, lists⟩
      · exact replays_fail _
      · exact (hshape _ _ rfl).elim

theorem replays_evalApplication (head : Form) (operands : List Form) :
    Replays (evalApplication ev head operands) (DraftLisp.evalApplication ev' head operands) := by
  have happly (values : List Value) (found : Except Error Callable) :
      Replays (ofResult found >>= fun callable => apply ev 1 callable values)
        (Comp.ofResult found >>= fun callable => DraftLisp.apply ev' 1 callable values) :=
    (replays_ofResult found).bind fun callable => replays_apply hev 1 callable values
  refine (replays_mapAll fun form _ => hev 0 form).bind fun values => ?_
  cases head with
  | symbol name => exact (replays_observe _).bind (happly values)
  | _ =>
      refine (hev 0 _).bind fun value => ?_
      exact (replays_observe _).bind (happly values)

theorem replays_evalForm (rounds : Nat) (form : Form) :
    Replays (evalForm rounds ev form) (DraftLisp.evalForm rounds ev' form) := by
  rcases form with value | text | name | (_ | ⟨head, operands⟩)
  · exact replays_pure _
  · exact replays_pure _
  · exact replays_observe fun state => state.lookup name
  · exact replays_pure _
  · unfold evalForm DraftLisp.evalForm
    cases hspecial : head.symbol?.bind SpecialForm.ofName? with
    | none =>
        simp only [hspecial]
        exact replays_evalApplication hev head operands
    | some special =>
        have haction := replays_action (hev 0) rounds special operands
        simp only [hspecial]
        revert haction
        generalize action? (ev 0) rounds special operands = action
        generalize special.action? rounds (ev' 0) operands = action'
        rintro (haction | _)
        · exact haction
        · exact replays_fail _

end Application

/-- Evaluation in one go does what the runs of the evaluator that waits do. -/
theorem replays_eval (rounds limit room level : Nat) (form : Form) :
    Replays (eval rounds limit room level form) (DraftLisp.eval rounds limit room level form) := by
  induction room generalizing level form with
  | zero => exact replays_fail _
  | succ room ih =>
      cases level with
      | zero => exact replays_evalForm ih rounds form
      | succ level => exact ih level form

theorem replays_evalProgram (rounds limit : Nat) (forms : List Form) :
    Replays (evalProgram rounds limit forms) (DraftLisp.evalProgram rounds limit forms) :=
  replays_evalBody (fun form => (replays_eval rounds limit limit 0 form).within []) .nil forms

end Direct

end DraftLisp

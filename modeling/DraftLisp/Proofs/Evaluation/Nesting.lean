import DraftLisp.Proofs.Evaluation.Application

/-!
The limit on the depth is looked at where a form is evaluated. The operators `APPLY` and `MAPCAR`
call operators on parts of their operands without a look at it. How deep such calls nest is measured
by an evaluation that refuses the calls that lie too deep.
-/

namespace DraftLisp

namespace Value

mutual

/-- How deep lists nest in a value. -/
def nesting : Value → Nat
  | .nil => 1
  | .list items => nestingOf items + 1
  | _ => 0

def nestingOf : List Value → Nat
  | [] => 0
  | value :: rest => max value.nesting (nestingOf rest)

end

theorem nesting_le_nestingOf {value : Value} {values : List Value} (h : value ∈ values) :
    value.nesting ≤ nestingOf values := by
  induction values with
  | nil => cases h
  | cons first rest ih =>
      rw [nestingOf]
      rcases List.mem_cons.mp h with rfl | hrest
      · exact Nat.le_max_left _ _
      · exact Nat.le_trans (ih hrest) (Nat.le_max_right _ _)

theorem nestingOf_lt_iff {values : List Value} {bound : Nat} (hbound : 0 < bound) :
    nestingOf values < bound ↔ ∀ value ∈ values, value.nesting < bound := by
  induction values with
  | nil => simp [nestingOf, hbound]
  | cons first rest ih => rw [nestingOf, Nat.max_lt, ih, List.forall_mem_cons]

theorem nestingOf_items_lt {list : Value} {items : List Value} (h : list.items? = some items) :
    nestingOf items < list.nesting := by
  cases list with
  | nil =>
      cases h
      exact Nat.zero_lt_one
  | list items =>
      cases h
      exact Nat.lt_succ_self _
  | _ => cases h

end Value

open Value (nestingOf nestingOf_lt_iff nesting_le_nestingOf nestingOf_items_lt)

/-- The rows of a table are what the lists that it was read from hold. -/
theorem items_of_mem_rows {lists : List Value} {rows : List (List Value)}
    (h : lists.mapM Value.expectList = .ok rows) {row : List Value} (hrow : row ∈ rows) :
    ∃ list ∈ lists, list.items? = some row := by
  induction lists generalizing rows with
  | nil =>
      cases h
      cases hrow
  | cons list lists ih =>
      rw [List.mapM_cons] at h
      cases hitems : list.items? with
      | none =>
          rw [Value.expectList, hitems] at h
          cases h
      | some items =>
          rw [Value.expectList, hitems] at h
          cases hothers : lists.mapM Value.expectList with
          | error error =>
              rw [hothers] at h
              cases h
          | ok others =>
              rw [hothers] at h
              cases h
              rcases List.mem_cons.mp hrow with rfl | hrest
              · exact ⟨list, .head _, hitems⟩
              · obtain ⟨list, hlist, hitems⟩ := ih hothers hrest
                exact ⟨list, .tail _ hlist, hitems⟩

theorem nestingOf_row_lt {lists : List Value} {rows : List (List Value)}
    (h : lists.mapM Value.expectList = .ok rows) {row : List Value} (hrow : row ∈ rows) :
    nestingOf row < nestingOf lists := by
  obtain ⟨list, hlist, hitems⟩ := items_of_mem_rows h hrow
  exact Nat.lt_of_lt_of_le (nestingOf_items_lt hitems) (nesting_le_nestingOf hlist)

theorem nestingOf_column_lt {lists : List Value} {rows : List (List Value)}
    (h : lists.mapM Value.expectList = .ok rows) {column : List Value}
    (hcolumn : column ∈ columns rows) : nestingOf column < nestingOf lists := by
  cases rows with
  | nil => cases hcolumn
  | cons first rest =>
      obtain ⟨i, rfl⟩ := mem_columns hcolumn
      have hpositive : 0 < nestingOf lists :=
        Nat.lt_of_le_of_lt (Nat.zero_le _) (nestingOf_row_lt h (.head _))
      rw [nestingOf_lt_iff hpositive]
      intro value hvalue
      obtain ⟨row, hrow, hvalue⟩ := List.mem_filterMap.mp hvalue
      exact Nat.lt_of_le_of_lt (nesting_le_nestingOf (List.mem_of_getElem? hvalue))
        (nestingOf_row_lt h hrow)

/-- The operator on operands, where `again` applies the operators that are called back. -/
def applyWith (ev : Evaluator) (again : Nat → Callable → List Value → Comp Value) (level : Nat)
    (callable : Callable) (operands : List Value) : Comp Value :=
  match callable with
  | .builtin operator =>
    match operator.arity.check operands.length, operator.action with
    | .ok (), .control .apply =>
      match operands with
      | [head, list] => do
        let callable ← Comp.observe (Callable.ofValue · head)
        let callable ← Comp.ofResult callable
        match list.items? with
        | none => .fail (.type (.expected "list" list))
        | some items => again (level + 1) callable items
      | _ => .fail (.arity 2 operands.length none)
    | .ok (), .control .mapcar =>
      match operands with
      | head :: lists => do
        let callable ← Comp.observe (Callable.ofValue · head)
        let callable ← Comp.ofResult callable
        match lists.mapM Value.expectList with
        | .error error => .fail error
        | .ok rows =>
          let values ← Comp.mapAll (again (level + 1) callable) (columns rows)
          return .ofList values
      | _ => .fail (.arity 2 operands.length none)
    | _, _ => apply ev level callable operands
  | _ => apply ev level callable operands

theorem applyWith_apply (ev : Evaluator) (level : Nat) (callable : Callable)
    (operands : List Value) :
    applyWith ev (apply ev) level callable operands = apply ev level callable operands := by
  unfold applyWith
  split
  · split
    · rename_i hcheck haction
      exact (apply_apply haction hcheck).symm
    · rename_i hcheck haction
      exact (apply_mapcar haction hcheck).symm
    · rfl
  · rfl

/-- Only operators that call back leave it to another way of applying. -/
theorem applyWith_leaf {operator : Builtin} (h : ∀ control, operator.action ≠ .control control)
    (ev : Evaluator) (again : Nat → Callable → List Value → Comp Value) (level : Nat)
    (operands : List Value) :
    applyWith ev again level (.builtin operator) operands =
      apply ev level (.builtin operator) operands := by
  unfold applyWith
  simp only
  split
  · rename_i haction
    exact absurd haction (h .apply)
  · rename_i haction
    exact absurd haction (h .mapcar)
  · rfl

/-- Applying with room for calls that nest. A call that finds no room is refused as a form that
nests too deep is. -/
def applyWithin (ev : Evaluator) (limit : Nat) :
    (room : Nat) → Nat → Callable → List Value → Comp Value
  | 0, _, _, _ => .fail (.eval (.depth limit))
  | room + 1, level, callable, operands =>
    applyWith ev (applyWithin ev limit room) level callable operands

/-- Only calls on less nested operands are called back. -/
theorem applyWith_congr {ev : Evaluator} {again other : Nat → Callable → List Value → Comp Value}
    {operands : List Value}
    (h : ∀ level callable inner, nestingOf inner < nestingOf operands →
      again level callable inner = other level callable inner)
    (level : Nat) (callable : Callable) :
    applyWith ev again level callable operands = applyWith ev other level callable operands := by
  unfold applyWith
  split
  · split
    · split
      · rename_i head list
        refine bind_congr fun _ => bind_congr fun callable => ?_
        split
        · rfl
        · rename_i items hitems
          exact h _ _ _ (Nat.lt_of_lt_of_le (nestingOf_items_lt hitems)
            (nesting_le_nestingOf (by simp)))
      · rfl
    · split
      · rename_i head lists
        refine bind_congr fun _ => bind_congr fun callable => ?_
        split
        · rfl
        · rename_i rows hrows
          have hcolumns : Comp.mapAll (again (level + 1) callable) (columns rows) =
              Comp.mapAll (other (level + 1) callable) (columns rows) :=
            Comp.mapAll_congr fun column hcolumn => h _ _ _
              (Nat.lt_of_lt_of_le (nestingOf_column_lt hrows hcolumn) (Nat.le_max_right _ _))
          rw [hcolumns]
      · rfl
    · rfl
  · rfl

/-- Room for as many calls as lists nest in the operands is never used up. -/
theorem applyWithin_eq_apply (ev : Evaluator) (limit : Nat) {room : Nat} (level : Nat)
    (callable : Callable) {operands : List Value} (h : nestingOf operands < room) :
    applyWithin ev limit room level callable operands = apply ev level callable operands := by
  induction room generalizing level callable operands with
  | zero => omega
  | succ room ih =>
      rw [applyWithin, ← applyWith_apply]
      exact applyWith_congr (fun level callable inner hinner => ih level callable (by omega)) _ _

def evalFormWith (rounds : Nat) (ev : Evaluator) (call : Callable → List Value → Comp Value)
    (form : Form) : Comp Value :=
  match form with
  | .list (head :: operands) =>
    match head.symbol?.bind SpecialForm.ofName? with
    | none => evalApplicationWith ev call head operands
    | some _ => evalForm rounds ev form
  | form => evalForm rounds ev form

theorem evalFormWith_apply (rounds : Nat) (ev : Evaluator) (form : Form) :
    evalFormWith rounds ev (apply ev 1) form = evalForm rounds ev form := by
  unfold evalFormWith
  split
  · rename_i head operands
    split
    · rename_i hhead
      rw [evalForm, hhead]
      rfl
    · rfl
  · rfl

/-- Evaluation that bounds how deep the calls of an application nest: `allowed room operands` is how
deep they may where there is room for forms on `room` more levels. -/
def evalWithin (rounds limit : Nat) (allowed : Nat → List Value → Nat) : (room : Nat) → Evaluator
  | 0, _, _ => .fail (.eval (.depth limit))
  | room + 1, 0, form =>
    let ev := evalWithin rounds limit allowed room
    evalFormWith rounds ev
      (fun callable operands => applyWithin ev limit (allowed room operands) 1 callable operands)
      form
  | room + 1, level + 1, form => evalWithin rounds limit allowed room level form

def evalProgramWithin (rounds limit : Nat) (allowed : Nat → List Value → Nat) (forms : List Form) :
    Comp Value :=
  evalBody (fun form => .within [] (evalWithin rounds limit allowed limit 0 form)) .nil forms

variable {rounds limit : Nat} {allowed : Nat → List Value → Nat}

theorem evalWithin_eq_eval (hallowed : ∀ room operands, nestingOf operands < allowed room operands)
    (room : Nat) : evalWithin rounds limit allowed room = eval rounds limit room := by
  induction room with
  | zero => rfl
  | succ room ih =>
      funext level form
      cases level with
      | zero =>
          have hcall : (fun callable operands => applyWithin (eval rounds limit room) limit
              (allowed room operands) 1 callable operands) = apply (eval rounds limit room) 1 := by
            funext callable operands
            exact applyWithin_eq_apply _ _ _ _ (hallowed room operands)
          rw [evalWithin, ih, eval, hcall, evalFormWith_apply]
      | succ level => rw [evalWithin, ih, eval]

theorem evalProgramWithin_eq_evalProgram
    (hallowed : ∀ room operands, nestingOf operands < allowed room operands)
    (forms : List Form) :
    evalProgramWithin rounds limit allowed forms = evalProgram rounds limit forms := by
  rw [evalProgramWithin, evalWithin_eq_eval hallowed, evalProgram]

theorem eval_depth (rounds limit room deeper : Nat) (form : Form) :
    eval rounds limit room (room + deeper) form = .fail (.eval (.depth limit)) := by
  induction room with
  | zero => rfl
  | succ room ih => rw [Nat.succ_add, eval, ih]

/-- Forms nested beyond the limit are refused. The calls of an application nest at most one deeper
than the lists in its operands: an evaluation that refuses all calls beyond that is the same. -/
theorem calls_le_nesting (rounds limit : Nat) :
    (∀ room deeper form,
      eval rounds limit room (room + deeper) form = .fail (.eval (.depth limit))) ∧
    (∀ room level form,
      evalWithin rounds limit (fun _ operands => nestingOf operands + 1) room level form =
        eval rounds limit room level form) ∧
    ∀ forms,
      evalProgramWithin rounds limit (fun _ operands => nestingOf operands + 1) forms =
        evalProgram rounds limit forms := by
  have hallowed : ∀ (_ : Nat) operands, nestingOf operands < nestingOf operands + 1 :=
    fun _ _ => Nat.lt_succ_self _
  refine ⟨eval_depth rounds limit, fun room level form => ?_,
    evalProgramWithin_eq_evalProgram hallowed⟩
  rw [evalWithin_eq_eval hallowed]

/-- A call of `operator` with a quoted name and the value of a variable. -/
def callForm (operator name source : String) : Form :=
  .list [.symbol operator, .list [.symbol "QUOTE", .symbol name], .symbol source]

theorem evalWithin_callForm {operator : String} {state : State} {callable : Callable}
    (hspecial : SpecialForm.ofName? operator = none)
    (hcallable : Callable.ofName state operator = .ok callable) (name source : String)
    (room : Nat) :
    evalWithin rounds limit allowed (room + 2) 0 (callForm operator name source) state =
      let operands := [Value.ofForm (.symbol name), state.lookup source]
      applyWithin (evalWithin rounds limit allowed (room + 1)) limit (allowed (room + 1) operands) 1
        callable operands state := by
  have hvalues : Comp.mapAll (evalWithin rounds limit allowed (room + 1) 0)
      [.list [.symbol "QUOTE", .symbol name], .symbol source] state =
        .done (.ok [.ofForm (.symbol name), state.lookup source]) state := rfl
  have hhead : (Form.symbol operator).symbol?.bind SpecialForm.ofName? = none := hspecial
  rw [callForm, evalWithin, evalFormWith, hhead]
  exact evalApplicationWith_eq hvalues hcallable

theorem applyWithin_list (ev : Evaluator) (limit calls level : Nat) (operands : List Value) :
    applyWithin ev limit (calls + 1) level (.builtin Builtin.lists[7]) operands =
      pure (.ofList operands) := by
  rw [applyWithin]
  change apply ev level (.builtin Builtin.lists[7]) operands = _
  rw [apply_pure rfl rfl]
  rfl

theorem evalForm_setq (rounds : Nat) (ev : Evaluator) {name : String} (form : Form)
    (h : (State.constant? name).isSome = false) :
    evalForm rounds ev (.list [.symbol "SETQ", .symbol name, form]) = (do
      let value ← ev 0 form
      Comp.modify fun state => { state with globals := state.globals.put name value }
      return value) := by
  have hpairs : SpecialForm.assignPairs (ev 0) [.symbol name, form] =
      SpecialForm.assign (ev 0) .nil [.symbol name, form] := by
    simp [SpecialForm.assignPairs]
  change SpecialForm.assignPairs (ev 0) [.symbol name, form] = _
  rw [hpairs, SpecialForm.assign, SpecialForm.assignable, h]
  rfl

/-- Makes a list of a name and the value of a variable and assigns it to `X`. -/
def wrapForm (name source : String) : Form :=
  .list [.symbol "SETQ", .symbol "X", callForm "LIST" name source]

theorem evalWithin_wrapForm (hallowed : ∀ room operands, 0 < allowed room operands)
    (name source : String) (state : State) (room : Nat) :
    evalWithin rounds limit allowed (room + 3) 0 (wrapForm name source) state =
      let wrapped := Value.list [.ofForm (.symbol name), state.lookup source]
      .done (.ok wrapped) { state with globals := state.globals.put "X" wrapped } := by
  have hlist : evalWithin rounds limit allowed (room + 2) 0 (callForm "LIST" name source) state =
      .done (.ok (.list [.ofForm (.symbol name), state.lookup source])) state := by
    have hcallable : Callable.ofName state "LIST" = .ok (.builtin Builtin.lists[7]) := rfl
    rw [evalWithin_callForm rfl hcallable]
    obtain ⟨calls, hcalls⟩ := Nat.exists_eq_add_one.mpr
      (hallowed (room + 1) [.ofForm (.symbol name), state.lookup source])
    simp only [hcalls, applyWithin_list]
    rfl
  change evalForm rounds (evalWithin rounds limit allowed (room + 2)) (wrapForm name source) state =
    _
  rw [wrapForm, evalForm_setq _ _ _ rfl, Comp.bind_apply, hlist]
  rfl

/-- A call of `LIST` without operands, inside of `n` calls of `APPLY`. -/
def tower : Nat → Value
  | 0 => .list [.symbol "LIST", .nil]
  | n + 1 => .list [.symbol "APPLY", tower n]

theorem apply_tower (ev : Evaluator) (level n : Nat) (state : State) :
    apply ev level (.builtin Builtin.controls[1]) [.symbol "APPLY", tower n] state =
      .done (.ok .nil) state := by
  induction n generalizing level with
  | zero =>
      rw [apply_apply rfl rfl]
      change apply ev (level + 1) (.builtin Builtin.controls[1]) [.symbol "LIST", .nil] state = _
      rw [apply_apply rfl rfl]
      change apply ev (level + 2) (.builtin Builtin.lists[7]) [] state = _
      rw [apply_pure rfl rfl]
      rfl
  | succ n ih =>
      rw [apply_apply rfl rfl]
      exact ih (level + 1)

theorem applyWithin_tower (ev : Evaluator) (level : Nat) {room n : Nat} (h : room ≤ n)
    (state : State) :
    applyWithin ev limit room level (.builtin Builtin.controls[1]) [.symbol "APPLY", tower n]
      state = .done (.error (.error (.eval (.depth limit)))) state := by
  induction room generalizing level n with
  | zero => rfl
  | succ room ih =>
      obtain ⟨n, rfl⟩ := Nat.exists_eq_add_one.mpr (Nat.lt_of_lt_of_le room.succ_pos h)
      exact ih (level + 1) (Nat.le_of_succ_le_succ h)

/-- Rounds in which one form leads from each state to the next one. -/
theorem evalBody_replicate {ev : Form → Comp Value} {form : Form} {values : Nat → Value}
    {states : Nat → State}
    (h : ∀ n, ev form (states n) = .done (.ok (values (n + 1))) (states (n + 1)))
    (rest : List Form) (first n : Nat) :
    evalBody ev (values first) (List.replicate n form ++ rest) (states first) =
      evalBody ev (values (first + n)) rest (states (first + n)) := by
  induction n generalizing first with
  | zero => rfl
  | succ n ih =>
      rw [List.replicate_succ, List.cons_append, evalBody, Comp.bind_apply, h,
        ← Nat.add_assoc, Nat.add_right_comm]
      exact ih (first + 1)

/-- A state in which `X` holds a tower. -/
def towerState (n : Nat) : State :=
  { Session.empty with globals := [("X", tower n)], frame := [] }

/-- A script that makes a tower of `n` calls and then calls it. -/
def towerScript (n : Nat) : List Form :=
  wrapForm "LIST" "NIL" :: (List.replicate n (wrapForm "APPLY" "X") ++
    [callForm "APPLY" "APPLY" "X"])

/-- The script calls a tower of `n` calls when it has made it. -/
theorem evalProgramWithin_towerScript (hallowed : ∀ room operands, 0 < allowed room operands)
    (room n : Nat) :
    evalProgramWithin rounds (room + 3) allowed (towerScript n)
        { Session.empty with frame := [] } =
      Comp.within [] (applyWithin (evalWithin rounds (room + 3) allowed (room + 2)) (room + 3)
        (allowed (room + 2) [.symbol "APPLY", tower n]) 1 (.builtin Builtin.controls[1])
        [.symbol "APPLY", tower n]) (towerState n) := by
  have hwrap : ∀ n, Comp.within [] (evalWithin rounds (room + 3) allowed (room + 3) 0
      (wrapForm "APPLY" "X")) (towerState n) =
        .done (.ok (tower (n + 1))) (towerState (n + 1)) := by
    intro n
    rw [Comp.within, evalWithin_wrapForm hallowed]
    rfl
  have hcallable : Callable.ofName (towerState n) "APPLY" = .ok (.builtin Builtin.controls[1]) :=
    rfl
  rw [evalProgramWithin, towerScript, evalBody, Comp.bind_apply, Comp.within,
    evalWithin_wrapForm hallowed]
  change evalBody _ (tower 0) _ (towerState 0) = _
  rw [evalBody_replicate hwrap, Nat.zero_add, evalBody]
  change (Comp.within [] _ >>= pure) _ = _
  rw [bind_pure, Comp.within, Comp.within]
  exact congrArg _ (evalWithin_callForm rfl hcallable "APPLY" "X" (room + 1))

/-- Calls nest deeper than the limit by more than any number: an evaluation that refuses the calls
that lie more than `extra` levels below the limit is another one. -/
theorem calls_unbounded :
    ¬∃ extra, ∀ rounds limit forms state,
      evalProgramWithin rounds limit (fun room _ => room + 1 + extra) forms state =
        evalProgram rounds limit forms state := by
  rintro ⟨extra, h⟩
  have hsame := h 1 3 (towerScript (3 + extra)) { Session.empty with frame := [] }
  rw [evalProgramWithin_towerScript (fun _ _ => by omega) 0, Comp.within,
    applyWithin_tower _ _ (Nat.le_refl _),
    ← evalProgramWithin_eq_evalProgram (fun _ _ => Nat.lt_succ_self _),
    evalProgramWithin_towerScript (fun _ _ => Nat.succ_pos _) 0, Comp.within,
    applyWithin_eq_apply _ _ _ _ (Nat.lt_succ_self _), apply_tower] at hsame
  cases hsame

end DraftLisp

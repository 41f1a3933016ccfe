import DraftLisp.Proofs.Builtin.Settled
import DraftLisp.Proofs.Evaluation.Composed
import DraftLisp.Proofs.Evaluation.Nesting

namespace DraftLisp

open Builtin (Counted)
open Value (nestingOf nestingOf_items_lt nesting_le_nestingOf)

theorem Error.isArity_named (operator : String) (error : Error) :
    (error.named operator).isArity = error.isArity := by
  fun_cases Error.named operator error <;> rfl

theorem Builtin.CountedEdit.naming {step : Edit α} (h : CountedEdit step) (operator : String) :
    CountedEdit (namingEdit operator step) := by
  intro drawing
  have hcounted := h drawing
  unfold namingEdit
  rcases hstep : step drawing with ⟨error | value, changed⟩
  · rw [hstep] at hcounted
    cases hcounted with
    | error h => exact .error ((Error.isArity_named _ _).trans h)
  · exact .ok value

namespace Callable

theorem counted_paramNames (owner : String) (forms : List Form) :
    Counted (paramNames owner forms) := by
  induction forms with
  | nil => exact .ok []
  | cons form rest ih =>
      cases form with
      | symbol name =>
          rw [paramNames]
          split
          · exact .ok []
          · exact ih.bind fun names => .ok _
      | _ => exact .error rfl

theorem counted_params (owner : String) (form : Form) : Counted (params owner form) := by
  fun_cases params owner form with
  | case1 items => exact counted_paramNames owner items
  | case2 => exact .ok []
  | case3 => exact .error rfl

theorem counted_ofName (state : State) (name : String) : Counted (ofName state name) := by
  unfold ofName
  split
  · exact .ok _
  · exact .error rfl

theorem counted_ofValue (state : State) (value : Value) : Counted (ofValue state value) := by
  unfold ofValue
  split
  · exact .ok _
  · exact counted_ofName state _
  · split
    · exact (counted_params _ _).bind fun names => .ok _
    · exact .error rfl
    · exact .error rfl
  · exact .error rfl

end Callable

theorem SpecialForm.counted_assignable (form : Form) : Counted (assignable form) := by
  unfold assignable
  split
  · split
    · exact .error rfl
    · exact .ok _
  · exact .error rfl

/-- A relation between computations with a closure law for each way to put computations together.
Nothing is said of an end with a text that is too long or with a wrong number of operands. -/
structure Comp.Congruence where
  rel : {α : Type} → Comp α → Comp α → Prop
  /-- What comes to a value at once is related to itself. -/
  ready : ∀ {α : Type} {comp : Comp α},
    (∀ state, ∃ value after, comp state = .done (.ok value) after) → rel comp comp
  fail : ∀ {α : Type} {error : Error}, error.isArity = false →
    rel (Comp.fail error : Comp α) (.fail error)
  endless : ∀ {α : Type}, rel (.halt .endless : Comp α) (.halt .endless)
  bind : ∀ {α β : Type} {first first' : Comp α} {next next' : α → Comp β}, rel first first' →
    (∀ value, rel (next value) (next' value)) → rel (first >>= next) (first' >>= next')
  within : ∀ {α : Type} {body body' : Comp α} (frame : Bindings Value), rel body body' →
    rel (.within frame body) (.within frame body')
  /-- What follows may depend on the state. -/
  observe_bind : ∀ {α β : Type} {view : State → α} {next next' : α → Comp β},
    (∀ state, rel (next (view state)) (next' (view state))) →
      rel (observe view >>= next) (observe view >>= next')
  request : ∀ wanted, rel (.request wanted) (.request wanted)
  edit : ∀ {step : Edit Value}, Builtin.CountedEdit step → rel (.edit step) (.edit step)

namespace Comp.Congruence

variable (C : Comp.Congruence) {α β : Type}

theorem pure (value : α) : C.rel (Pure.pure value) (Pure.pure value) :=
  C.ready fun state => ⟨value, state, rfl⟩

theorem observe (view : State → α) : C.rel (Comp.observe view) (Comp.observe view) :=
  C.ready fun state => ⟨view state, state, rfl⟩

theorem modify (change : State → State) : C.rel (Comp.modify change) (Comp.modify change) :=
  C.ready fun state => ⟨(), change state, rfl⟩

theorem ofResult_bind {result : Except Error α} {next next' : α → Comp β} (h : Counted result)
    (hnext : ∀ value, result = .ok value → C.rel (next value) (next' value)) :
    C.rel (Comp.ofResult result >>= next) (Comp.ofResult result >>= next') := by
  cases h with
  | ok value => exact hnext value rfl
  | error h => exact C.fail h

theorem mapAll {run run' : α → Comp β} {items : List α}
    (h : ∀ item ∈ items, C.rel (run item) (run' item)) :
    C.rel (Comp.mapAll run items) (Comp.mapAll run' items) := by
  induction items with
  | nil => exact C.pure []
  | cons item rest ih =>
      rw [List.forall_mem_cons] at h
      refine C.bind h.1 fun result => C.bind (ih h.2) fun results => ?_
      exact C.pure _

section SpecialForms

variable {ev ev' : Form → Comp Value} (hev : ∀ form, C.rel (ev form) (ev' form))

open SpecialForm

theorem makeClosure (parameters : Form) (body : List Form) :
    C.rel (makeClosure parameters body) (makeClosure parameters body) :=
  C.ofResult_bind (Callable.counted_params _ _) fun _ _ => C.ready fun _ => ⟨_, _, rfl⟩

theorem define (name parameters : Form) (body : List Form) :
    C.rel (define name parameters body) (define name parameters body) := by
  cases name with
  | symbol name =>
      exact C.ofResult_bind (Callable.counted_params _ _) fun params _ =>
        C.bind (C.modify _) fun _ => C.pure _
  | _ => exact C.fail rfl

include hev

theorem evalBody (last : Value) (forms : List Form) :
    C.rel (evalBody ev last forms) (DraftLisp.evalBody ev' last forms) := by
  induction forms generalizing last with
  | nil => exact C.pure last
  | cons form rest ih => exact C.bind (hev form) ih

theorem nameFunction (form : Form) : C.rel (nameFunction ev form) (nameFunction ev' form) := by
  unfold SpecialForm.nameFunction
  split
  · exact C.pure _
  · exact hev _
  · exact C.pure _

theorem assign (last : Value) (operands : List Form) :
    C.rel (assign ev last operands) (assign ev' last operands) := by
  match operands with
  | [] => exact C.pure last
  | [_] => exact C.pure last
  | target :: form :: rest =>
      rw [SpecialForm.assign, SpecialForm.assign]
      refine C.ofResult_bind (counted_assignable target) fun name _ =>
        C.bind (hev form) fun value => ?_
      exact C.bind (C.modify _) fun _ => assign value rest

theorem assignPairs (operands : List Form) :
    C.rel (assignPairs ev operands) (assignPairs ev' operands) := by
  unfold SpecialForm.assignPairs
  split
  · split
    · exact C.fail rfl
    · exact C.assign hev _ _
  · exact C.pure _

theorem choose (clauses : List Form) : C.rel (choose ev clauses) (choose ev' clauses) := by
  match clauses with
  | [] => exact C.pure _
  | .list [] :: rest => exact choose rest
  | .list (test :: body) :: rest =>
      rw [SpecialForm.choose, SpecialForm.choose]
      refine C.bind (hev test) fun verdict => ?_
      split
      · exact C.evalBody hev verdict body
      · exact choose rest
  | .number _ :: _ => exact C.fail rfl
  | .string _ :: _ => exact C.fail rfl
  | .symbol _ :: _ => exact C.fail rfl

theorem loopWhile (test : Form) (body : List Form) (last : Value) (rounds : Nat) :
    C.rel (loopWhile ev test body last rounds) (loopWhile ev' test body last rounds) := by
  induction rounds generalizing last with
  | zero => exact C.endless
  | succ rounds ih =>
      refine C.bind (hev test) fun verdict => ?_
      split
      · exact C.bind (C.evalBody hev .nil body) ih
      · exact C.pure last

theorem loopTimes (body : List Form) (last : Value) (rounds : Nat) :
    C.rel (loopTimes ev body last rounds) (loopTimes ev' body last rounds) := by
  induction rounds generalizing last with
  | zero => exact C.pure last
  | succ rounds ih => exact C.bind (C.evalBody hev .nil body) ih

theorem loopOver (name : String) (body : List Form) (last : Value) (items : List Value) :
    C.rel (loopOver ev name body last items) (loopOver ev' name body last items) := by
  induction items generalizing last with
  | nil => exact C.pure last
  | cons item rest ih =>
      exact C.bind (C.modify _) fun _ => C.bind (C.evalBody hev .nil body) ih

theorem repeatBody (count : Form) (body : List Form) :
    C.rel (repeatBody ev count body) (repeatBody ev' count body) := by
  refine C.bind (hev count) fun value => ?_
  split
  · exact C.fail rfl
  · exact C.loopTimes hev _ _ _

theorem foreachItem (target list : Form) (body : List Form) :
    C.rel (foreachItem ev target list body) (foreachItem ev' target list body) := by
  unfold SpecialForm.foreachItem
  split
  · refine C.bind (hev list) fun value => ?_
    split
    · exact C.fail rfl
    · exact C.loopOver hev _ _ _ _
  · exact C.fail rfl

theorem allTrue (forms : List Form) : C.rel (allTrue ev forms) (allTrue ev' forms) := by
  induction forms with
  | nil => exact C.pure _
  | cons form rest ih =>
      refine C.bind (hev form) fun value => ?_
      split
      · exact ih
      · exact C.pure _

theorem firstTrue (forms : List Form) : C.rel (firstTrue ev forms) (firstTrue ev' forms) := by
  induction forms with
  | nil => exact C.pure _
  | cons form rest ih =>
      refine C.bind (hev form) fun value => ?_
      split
      · exact C.pure _
      · exact ih

theorem conditional (test yes : Form) {no no' : Comp Value} (hno : C.rel no no') :
    C.rel (do if (← ev test).isTruthy then ev yes else no)
      (do if (← ev' test).isTruthy then ev' yes else no') := by
  refine C.bind (hev test) fun verdict => ?_
  split
  · exact hev yes
  · exact hno

theorem action (rounds : Nat) (special : SpecialForm) (operands : List Form) :
    Option.Rel C.rel (special.action? rounds ev operands)
      (special.action? rounds ev' operands) := by
  unfold action?
  split
  · exact .some (C.pure _)
  · exact .some (C.nameFunction hev _)
  · exact .some (C.assignPairs hev _)
  · exact .some (C.conditional hev _ _ (C.pure _))
  · exact .some (C.conditional hev _ _ (hev _))
  · exact .some (C.choose hev _)
  · exact .some (C.loopWhile hev _ _ _ _)
  · exact .some (C.repeatBody hev _ _)
  · exact .some (C.foreachItem hev _ _ _)
  · exact .some (C.evalBody hev _ _)
  · exact .some (C.define _ _ _)
  · exact .some (C.makeClosure _ _)
  · exact .some (C.allTrue hev _)
  · exact .some (C.firstTrue hev _)
  · exact .none

end SpecialForms

section Calls

variable {ev ev' : Evaluator} (hev : ∀ level form, C.rel (ev level form) (ev' level form))
  {again : Nat → Callable → List Value → Comp Value} {level : Nat} {operator : Builtin}
  {operands : List Value}

/-- What is called back with less nested operands may be called in another way. -/
def Recalls (ev : Evaluator) (again : Nat → Callable → List Value → Comp Value) (level : Nat)
    (operands : List Value) : Prop :=
  ∀ callable : Callable, callable.Registered → ∀ inner, nestingOf inner < nestingOf operands →
    C.rel (apply ev (level + 1) callable inner) (again (level + 1) callable inner)

theorem ofValue (head : Value) {next next' : Callable → Comp Value}
    (h : ∀ callable : Callable, callable.Registered → C.rel (next callable) (next' callable)) :
    C.rel (Comp.observe (Callable.ofValue · head) >>= fun found => Comp.ofResult found >>= next)
      (Comp.observe (Callable.ofValue · head) >>= fun found => Comp.ofResult found >>= next') :=
  C.observe_bind fun state => C.ofResult_bind (Callable.counted_ofValue state head)
    fun callable hfound => h callable (Callable.registered_ofValue hfound)

theorem ofExcept {run : List Value → Except Halt Value} (hsettles : operator.Settles operands)
    (haction : operator.action = .pure run)
    (hlong : operator.asksTooLong operands = true →
      C.rel (.halt .overlong : Comp Value) (.halt .overlong)) :
    C.rel (.ofExcept (namingHalt operator.name (run operands)))
      (.ofExcept (namingHalt operator.name (run operands))) := by
  simp only [Builtin.Settles, haction] at hsettles
  split at hsettles
  · rw [hsettles]
    exact hlong ‹_›
  · obtain ⟨result, hrun, hcounted⟩ := hsettles
    rw [hrun]
    cases hcounted with
    | ok value => exact C.pure value
    | error h => exact C.fail ((Error.isArity_named _ _).trans h)

/-- A call of an operator that does not call back, under any two evaluators. -/
theorem leaf (hsettles : operator.Settles operands)
    (hcheck : operator.arity.check operands.length = .ok ())
    (hleaf : ∀ control, operator.action ≠ .control control)
    (hlong : operator.asksTooLong operands = true →
      C.rel (.halt .overlong : Comp Value) (.halt .overlong)) :
    C.rel (apply ev level (.builtin operator) operands)
      (apply ev' level (.builtin operator) operands) := by
  rcases haction : operator.action with run | run | ask | control
  · rw [apply_pure hcheck haction, apply_pure hcheck haction]
    exact C.ofExcept hsettles haction hlong
  · rw [apply_edit hcheck haction, apply_edit hcheck haction]
    simp only [Builtin.Settles, haction] at hsettles
    exact C.edit (Builtin.CountedEdit.naming hsettles _)
  · rw [apply_input hcheck haction, apply_input hcheck haction]
    refine C.observe_bind fun state => ?_
    simp only [Builtin.Settles, haction] at hsettles
    have hcounted := hsettles state.drawing
    split
    · exact C.pure _
    · exact C.request _
    · rename_i hask
      rw [hask] at hcounted
      cases hcounted with
      | error h => exact C.fail ((Error.isArity_named _ _).trans h)
  · exact absurd haction (hleaf control)

theorem callingApply (hagain : C.Recalls ev again level operands)
    (hsettles : operator.Settles operands)
    (hcheck : operator.arity.check operands.length = .ok ())
    (haction : operator.action = .control .apply) :
    C.rel (apply ev level (.builtin operator) operands)
      (applyWith ev' again level (.builtin operator) operands) := by
  simp only [Builtin.Settles, haction] at hsettles
  obtain ⟨head, list, rfl⟩ := hsettles
  rw [apply_apply haction hcheck]
  unfold applyWith
  simp only [hcheck, haction]
  refine C.ofValue head fun callable hcallable => ?_
  cases hitems : list.items? with
  | none => exact C.fail rfl
  | some items =>
      exact hagain callable hcallable items
        (Nat.lt_of_lt_of_le (nestingOf_items_lt hitems) (nesting_le_nestingOf (by simp)))

theorem callingMapcar (hagain : C.Recalls ev again level operands)
    (hsettles : operator.Settles operands)
    (hcheck : operator.arity.check operands.length = .ok ())
    (haction : operator.action = .control .mapcar) :
    C.rel (apply ev level (.builtin operator) operands)
      (applyWith ev' again level (.builtin operator) operands) := by
  simp only [Builtin.Settles, haction] at hsettles
  obtain ⟨head, first, lists, rfl⟩ := hsettles
  rw [apply_mapcar haction hcheck]
  unfold applyWith
  simp only [hcheck, haction]
  refine C.ofValue head fun callable hcallable => ?_
  have hcounted := Builtin.counted_mapM Builtin.counted_expectList (first :: lists)
  cases hrows : (first :: lists).mapM Value.expectList with
  | error error =>
      rw [hrows] at hcounted
      cases hcounted with
      | error h => exact C.fail h
  | ok rows =>
      refine C.bind (C.mapAll fun column hcolumn => ?_) fun values => C.pure _
      exact hagain callable hcallable column
        (Nat.lt_of_lt_of_le (nestingOf_column_lt hrows hcolumn) (Nat.le_max_right _ _))

include hev

theorem closure (params : List String) (body : List Form) (captured : Bindings Value)
    (operands : List Value) :
    C.rel (apply ev level (.closure params body captured) operands)
      (apply ev' level (.closure params body captured) operands) := by
  rw [apply_closure, apply_closure]
  exact C.within _ (C.evalBody (hev level) .nil body)

theorem function (function : Function) (operands : List Value) :
    C.rel (apply ev level (.function function) operands)
      (apply ev' level (.function function) operands) := by
  rw [apply_function, apply_function]
  exact C.observe_bind fun state => C.within _ (C.evalBody (hev level) .nil function.body)

/-- A call with an accepted number of operands. -/
theorem builtin (hmem : operator ∈ Builtin.all)
    (hcheck : operator.arity.check operands.length = .ok ())
    (hlong : operator.asksTooLong operands = true →
      C.rel (.halt .overlong : Comp Value) (.halt .overlong))
    (hagain : C.Recalls ev again level operands) :
    C.rel (apply ev level (.builtin operator) operands)
      (applyWith ev' again level (.builtin operator) operands) := by
  have hsettles := Builtin.settled_all operator hmem operands (Arity.accepts_of_check hcheck)
  rcases haction : operator.action with run | run | ask | _ | _ | _
  · rw [applyWith_leaf (by simp [haction])]
    exact C.leaf hsettles hcheck (by simp [haction]) hlong
  · rw [applyWith_leaf (by simp [haction])]
    exact C.leaf hsettles hcheck (by simp [haction]) hlong
  · rw [applyWith_leaf (by simp [haction])]
    exact C.leaf hsettles hcheck (by simp [haction]) hlong
  · exact C.callingMapcar hagain hsettles hcheck haction
  · exact C.callingApply hagain hsettles hcheck haction
  · unfold applyWith
    simp only [hcheck, haction]
    rw [apply_eval haction hcheck, apply_eval haction hcheck]
    simp only [Builtin.Settles, haction] at hsettles
    obtain ⟨value, rfl⟩ := hsettles
    simp only
    split
    · exact C.pure value
    · exact C.observe_bind fun state => C.within _ (hev level _)

end Calls

section Forms

variable {ev ev' : Evaluator} (hev : ∀ level form, C.rel (ev level form) (ev' level form))
  {call : Callable → List Value → Comp Value}
  (hcall : ∀ callable : Callable, callable.Registered → ∀ operands,
    C.rel (apply ev 1 callable operands) (call callable operands))

include hev hcall

theorem evalApplication (head : Form) (forms : List Form) :
    C.rel (evalApplication ev head forms) (evalApplicationWith ev' call head forms) := by
  refine C.bind (C.mapAll fun form _ => hev 0 form) fun values => ?_
  cases head with
  | symbol name =>
      exact C.observe_bind fun state => C.ofResult_bind (Callable.counted_ofName state name)
        fun callable hfound => hcall callable (Callable.registered_ofName hfound) values
  | _ =>
      exact C.bind (hev 0 _) fun value =>
        C.ofValue value fun callable hcallable => hcall callable hcallable values

theorem evalForm (rounds : Nat) (form : Form) :
    C.rel (evalForm rounds ev form) (evalFormWith rounds ev' call form) := by
  rcases form with value | text | name | (_ | ⟨head, operands⟩)
  · exact C.pure _
  · exact C.pure _
  · exact C.observe _
  · exact C.pure _
  · unfold evalFormWith DraftLisp.evalForm
    cases hspecial : head.symbol?.bind SpecialForm.ofName? with
    | none =>
        simp only [hspecial]
        exact C.evalApplication hev hcall head operands
    | some special =>
        have haction := C.action (hev 0) rounds special operands
        simp only [hspecial]
        revert haction
        generalize special.action? rounds (ev 0) operands = action
        generalize special.action? rounds (ev' 0) operands = action'
        rintro (haction | _)
        · exact haction
        · exact C.fail rfl

end Forms

end Comp.Congruence

end DraftLisp

import DraftLisp.Evaluation

/-!
A property that all primitive computations have, and that is passed on where computations are put
together, holds of the evaluation of every form. It may depend on the names that loops of the form
bind in its own frame; calls run in a frame of their own, where every name may be bound.
-/

namespace DraftLisp

namespace Form

/-- The variable of a list of forms that is a loop over a list. -/
def loopVariable? : List Form → Option String
  | .symbol "FOREACH" :: .symbol name :: _ => some name
  | _ => none

mutual

/-- The names that stand as the variable of a loop anywhere in a form. -/
def loopVariables : Form → List String
  | .list items => (loopVariable? items).toList ++ loopVariablesOf items
  | _ => []

def loopVariablesOf : List Form → List String
  | [] => []
  | item :: rest => item.loopVariables ++ loopVariablesOf rest

end

theorem mem_loopVariablesOf {name : String} {items : List Form} :
    name ∈ loopVariablesOf items ↔ ∃ item ∈ items, name ∈ item.loopVariables := by
  induction items with
  | nil => simp [loopVariablesOf]
  | cons item rest ih => simp [loopVariablesOf, ih]

def LoopsIn (loops : String → Prop) (form : Form) : Prop :=
  ∀ name ∈ form.loopVariables, loops name

theorem loopsIn_list_iff {loops : String → Prop} {items : List Form} :
    (Form.list items).LoopsIn loops ↔
      (∀ name ∈ loopVariable? items, loops name) ∧ ∀ item ∈ items, item.LoopsIn loops := by
  simp only [LoopsIn, loopVariables, List.mem_append, Option.mem_toList, mem_loopVariablesOf]
  constructor
  · intro h
    exact ⟨fun name hname => h name (.inl hname),
      fun item hitem name hname => h name (.inr ⟨item, hitem, hname⟩)⟩
  · rintro ⟨hvariable, hitems⟩ name (hname | ⟨item, hitem, hname⟩)
    · exact hvariable name hname
    · exact hitems item hitem name hname

end Form

namespace Callable

/-- A builtin that a program can name is one of those registered. -/
def Registered : Callable → Prop
  | .builtin operator => operator ∈ Builtin.all
  | _ => True

theorem registered_ofName {state : State} {name : String} {callable : Callable}
    (h : ofName state name = .ok callable) : callable.Registered := by
  unfold ofName ofName? at h
  cases hfind : Builtin.find? name with
  | some operator =>
      simp only [hfind, Except.ok.injEq] at h
      subst h
      exact List.mem_of_find?_eq_some hfind
  | none =>
      simp only [hfind] at h
      split at h
      · rename_i found hfound
        cases h
        split at hfound
        · cases hfound
          exact trivial
        · obtain ⟨function, -, rfl⟩ := Option.map_eq_some_iff.mp hfound
          exact trivial
      · cases h

theorem registered_ofValue {state : State} {value : Value} {callable : Callable}
    (h : ofValue state value = .ok callable) : callable.Registered := by
  unfold ofValue at h
  split at h
  · cases h
    exact trivial
  · exact registered_ofName h
  · split at h
    · rename_i parameters body _
      cases hparams : params "lambda" parameters with
      | error error => simp [hparams, bind, Except.bind] at h
      | ok names =>
          obtain rfl : closure names body state.snapshot = callable := by
            simpa [hparams, bind, Except.bind, pure, Except.pure] using h
          exact trivial
    · cases h
    · cases h
  · cases h

end Callable

/-- A property of computations, where `loops` tells which names may be bound in the frame, with a
law for each primitive computation and for each way to put computations together. -/
structure Comp.Property where
  holds : (loops : String → Prop) → {α : Type} → Comp α → Prop
  pure : ∀ loops {α : Type} (value : α), holds loops (Pure.pure value : Comp α)
  halt : ∀ loops {α : Type} (reason : Halt), holds loops (Comp.halt reason : Comp α)
  /-- What follows may depend on the state. -/
  observe_bind : ∀ {loops} {α β : Type} {view : State → α} {next : α → Comp β},
    (∀ state, holds loops (next (view state))) → holds loops (Comp.observe view >>= next)
  bind : ∀ {loops} {α β : Type} {first : Comp α} {next : α → Comp β}, holds loops first →
    (∀ value, holds loops (next value)) → holds loops (first >>= next)
  /-- A call has a frame of its own, in which it may bind every name. -/
  within : ∀ loops {α : Type} {body : Comp α} (frame : Bindings Value),
    holds (fun _ => True) body → holds loops (Comp.within frame body)
  loop : ∀ {loops : String → Prop} {name} value, loops name →
    holds loops (Comp.modify fun state => { state with frame := state.frame.put name value })
  global : ∀ loops name value,
    holds loops (Comp.modify fun state => { state with globals := state.globals.put name value })
  named : ∀ loops name function,
    holds loops
      (Comp.modify fun state => { state with functions := state.functions.put name function })
  closure : ∀ loops params body, holds loops (α := Value) fun state =>
    .done (.ok (.closure state.nextClosure params body state.snapshot))
      { state with nextClosure := state.nextClosure + 1 }
  edit : ∀ loops {operator run} operands, operator ∈ Builtin.all → operator.action = .edit run →
    holds loops (Comp.edit (namingEdit operator.name (run operands)))
  input : ∀ loops ev level {operator ask operands}, operator ∈ Builtin.all →
    operator.action = .input ask → operator.arity.check operands.length = .ok () →
      holds loops (apply ev level (.builtin operator) operands)

namespace Comp.Property

variable (P : Comp.Property) {loops : String → Prop}

theorem fail {α : Type} (error : Error) : P.holds loops (Comp.fail error : Comp α) :=
  P.halt loops _

theorem observe {α : Type} (view : State → α) : P.holds loops (Comp.observe view) := by
  change P.holds loops (Comp.observe view >>= Pure.pure)
  exact P.observe_bind fun state => P.pure loops (view state)

theorem ofExcept {α : Type} (result : Except Halt α) : P.holds loops (Comp.ofExcept result) := by
  cases result with
  | ok value => exact P.pure loops value
  | error reason => exact P.halt loops reason

theorem ofResult_bind {α β : Type} {result : Except Error α} {next : α → Comp β}
    (h : ∀ value, result = .ok value → P.holds loops (next value)) :
    P.holds loops (Comp.ofResult result >>= next) := by
  cases result with
  | ok value => exact h value rfl
  | error error => exact P.fail error

theorem mapAll {α β : Type} {run : α → Comp β} {items : List α}
    (h : ∀ item ∈ items, P.holds loops (run item)) : P.holds loops (Comp.mapAll run items) := by
  induction items with
  | nil => exact P.pure loops []
  | cons item rest ih =>
      rw [List.forall_mem_cons] at h
      exact P.bind h.1 fun result => P.bind (ih h.2) fun results => P.pure loops _

section SpecialForms

variable {ev : Form → Comp Value}

open SpecialForm

theorem evalBody {forms : List Form} (last : Value)
    (h : ∀ form ∈ forms, P.holds loops (ev form)) :
    P.holds loops (evalBody ev last forms) := by
  induction forms generalizing last with
  | nil => exact P.pure loops last
  | cons form rest ih =>
      rw [List.forall_mem_cons] at h
      exact P.bind h.1 fun value => ih value h.2

theorem assign {operands : List Form} (last : Value)
    (h : ∀ form ∈ operands, P.holds loops (ev form)) :
    P.holds loops (assign ev last operands) := by
  fun_induction SpecialForm.assign ev last operands with
  | case1 last target form rest ih =>
      refine P.ofResult_bind fun name _ => P.bind (h form (by simp)) fun value => ?_
      refine P.bind (P.global loops name value) fun _ => ?_
      exact ih value fun other hother => h other (by simp [hother])
  | case2 => exact P.pure loops _

theorem assignPairs {operands : List Form} (h : ∀ form ∈ operands, P.holds loops (ev form)) :
    P.holds loops (assignPairs ev operands) := by
  unfold SpecialForm.assignPairs
  split
  · split
    · exact P.fail _
    · exact P.assign .nil h
  · exact P.pure loops _

theorem choose (hev : ∀ form, form.LoopsIn loops → P.holds loops (ev form)) {clauses : List Form}
    (h : ∀ clause ∈ clauses, clause.LoopsIn loops) : P.holds loops (choose ev clauses) := by
  fun_induction SpecialForm.choose ev clauses with
  | case1 => exact P.pure loops _
  | case2 rest ih => exact ih fun clause hclause => h clause (by simp [hclause])
  | case3 test body rest ih =>
      have hclause := (Form.loopsIn_list_iff.mp (h _ List.mem_cons_self)).2
      refine P.bind (hev test (hclause test (by simp))) fun verdict => ?_
      split
      · exact P.evalBody verdict fun form hform => hev form (hclause form (by simp [hform]))
      · exact ih fun clause hclause => h clause (by simp [hclause])
  | case4 form rest => exact P.fail _

theorem loopWhile {test : Form} {body : List Form} (htest : P.holds loops (ev test))
    (hbody : ∀ form ∈ body, P.holds loops (ev form)) (last : Value) (rounds : Nat) :
    P.holds loops (loopWhile ev test body last rounds) := by
  induction rounds generalizing last with
  | zero => exact P.halt loops .endless
  | succ rounds ih =>
      refine P.bind htest fun verdict => ?_
      split
      · exact P.bind (P.evalBody .nil hbody) ih
      · exact P.pure loops last

theorem loopTimes {body : List Form} (hbody : ∀ form ∈ body, P.holds loops (ev form))
    (last : Value) (rounds : Nat) : P.holds loops (loopTimes ev body last rounds) := by
  induction rounds generalizing last with
  | zero => exact P.pure loops last
  | succ rounds ih => exact P.bind (P.evalBody .nil hbody) ih

theorem loopOver {name : String} (hname : loops name) {body : List Form}
    (hbody : ∀ form ∈ body, P.holds loops (ev form)) (last : Value) (items : List Value) :
    P.holds loops (loopOver ev name body last items) := by
  induction items generalizing last with
  | nil => exact P.pure loops last
  | cons item rest ih =>
      exact P.bind (P.loop item hname) fun _ => P.bind (P.evalBody .nil hbody) ih

theorem allTrue {forms : List Form} (h : ∀ form ∈ forms, P.holds loops (ev form)) :
    P.holds loops (allTrue ev forms) := by
  induction forms with
  | nil => exact P.pure loops _
  | cons form rest ih =>
      rw [List.forall_mem_cons] at h
      refine P.bind h.1 fun value => ?_
      split
      · exact ih h.2
      · exact P.pure loops _

theorem firstTrue {forms : List Form} (h : ∀ form ∈ forms, P.holds loops (ev form)) :
    P.holds loops (firstTrue ev forms) := by
  induction forms with
  | nil => exact P.pure loops _
  | cons form rest ih =>
      rw [List.forall_mem_cons] at h
      refine P.bind h.1 fun value => ?_
      split
      · exact P.pure loops value
      · exact ih h.2

theorem repeatBody {count : Form} {body : List Form} (hcount : P.holds loops (ev count))
    (hbody : ∀ form ∈ body, P.holds loops (ev form)) :
    P.holds loops (repeatBody ev count body) := by
  refine P.bind hcount fun value => ?_
  split
  · exact P.fail _
  · exact P.loopTimes hbody _ _

theorem foreachItem {target list : Form} {body : List Form}
    (htarget : ∀ name, target = .symbol name → loops name) (hlist : P.holds loops (ev list))
    (hbody : ∀ form ∈ body, P.holds loops (ev form)) :
    P.holds loops (foreachItem ev target list body) := by
  unfold SpecialForm.foreachItem
  split
  · rename_i name
    refine P.bind hlist fun value => ?_
    split
    · exact P.fail _
    · exact P.loopOver (htarget name rfl) hbody _ _
  · exact P.fail _

theorem makeClosure (parameters : Form) (body : List Form) :
    P.holds loops (makeClosure parameters body) :=
  P.ofResult_bind fun params _ => P.closure loops params body

theorem define (name parameters : Form) (body : List Form) :
    P.holds loops (define name parameters body) := by
  unfold SpecialForm.define
  split
  · refine P.ofResult_bind fun params _ => ?_
    exact P.bind (P.named loops _ _) fun _ => P.pure loops _
  · exact P.fail _

theorem nameFunction {form : Form} (h : P.holds loops (ev form)) :
    P.holds loops (nameFunction ev form) := by
  unfold SpecialForm.nameFunction
  split
  · exact P.pure loops _
  · exact h
  · exact P.pure loops _

/-- The operands of a special form are evaluated in its frame; of the forms, only the loop over a
list binds a name there. -/
theorem action (hev : ∀ form, form.LoopsIn loops → P.holds loops (ev form)) (rounds : Nat)
    {special : SpecialForm} {operands : List Form} {action : Comp Value}
    (hoperands : ∀ form ∈ operands, form.LoopsIn loops)
    (htarget : special = .foreach → ∀ name rest, operands = .symbol name :: rest → loops name)
    (haction : special.action? rounds ev operands = some action) : P.holds loops action := by
  have hforms : ∀ form ∈ operands, P.holds loops (ev form) :=
    fun form hform => hev form (hoperands form hform)
  unfold action? at haction
  split at haction
  all_goals cases haction
  · exact P.pure loops _
  · exact P.nameFunction (hforms _ (by simp))
  · exact P.assignPairs hforms
  · refine P.bind (hforms _ (by simp)) fun verdict => ?_
    split
    · exact hforms _ (by simp)
    · exact P.pure loops _
  · refine P.bind (hforms _ (by simp)) fun verdict => ?_
    split
    · exact hforms _ (by simp)
    · exact hforms _ (by simp)
  · exact P.choose hev hoperands
  · exact P.loopWhile (hforms _ (by simp)) (fun form hform => hforms form (by simp [hform])) _ _
  · exact P.repeatBody (hforms _ (by simp)) fun form hform => hforms form (by simp [hform])
  · refine P.foreachItem ?_ (hforms _ (by simp)) fun form hform => ?_
    · rintro name rfl
      exact htarget rfl name _ rfl
    · exact hforms form (by simp [hform])
  · exact P.evalBody _ hforms
  · exact P.define _ _ _
  · exact P.makeClosure _ _
  · exact P.allTrue hforms
  · exact P.firstTrue hforms

end SpecialForms

section Application

variable {ev : Evaluator}

theorem apply (hev : ∀ level form, P.holds (fun _ => True) (ev level form)) (level : Nat)
    {callable : Callable} (hregistered : callable.Registered) (operands : List Value) :
    P.holds loops (apply ev level callable operands) := by
  -- The operators APPLY and MAPCAR call `apply` again with parts of their operands.
  induction level, callable, operands using apply.induct generalizing loops with
  | case1 level operands params body captured =>
      rw [apply.eq_def]
      exact P.within loops _ (P.evalBody _ fun form _ => hev level form)
  | case2 level operands function =>
      rw [apply.eq_def]
      refine P.observe_bind fun state => ?_
      exact P.within loops _ (P.evalBody _ fun form _ => hev level form)
  | case3 level operands operator error hcheck =>
      rw [apply.eq_def]
      simp only [hcheck]
      exact P.fail _
  | case4 level operands operator hcheck run haction =>
      rw [apply.eq_def]
      simp only [hcheck, haction]
      exact P.ofExcept _
  | case5 level operands operator hcheck run haction =>
      rw [apply.eq_def]
      simp only [hcheck, haction]
      exact P.edit loops operands hregistered haction
  | case6 level operands operator hcheck ask haction =>
      exact P.input loops ev level hregistered haction hcheck
  | case7 level operator haction value hform hcheck =>
      rw [apply.eq_def]
      simp only [hcheck, haction, hform]
      exact P.pure loops _
  | case8 level operator haction value form hform hcheck =>
      rw [apply.eq_def]
      simp only [hcheck, haction, hform]
      exact P.observe_bind fun state => P.within loops _ (hev level form)
  | case9 level operands operator hcheck haction hshape =>
      rw [apply.eq_def]
      simp only [hcheck, haction]
      exact P.fail _
  | case10 level operator haction head list hcheck ih =>
      rw [apply.eq_def]
      simp only [hcheck, haction]
      refine P.observe_bind fun state => P.ofResult_bind fun callable hcallable => ?_
      split
      · exact P.fail _
      · rename_i items hitems
        exact ih callable items hitems (Callable.registered_ofValue hcallable)
  | case11 level operands operator hcheck haction hshape =>
      rw [apply.eq_def]
      simp only [hcheck, haction]
      exact P.fail _
  | case12 level operator haction head lists hcheck ih =>
      rw [apply.eq_def]
      simp only [hcheck, haction]
      refine P.observe_bind fun state => P.ofResult_bind fun callable hcallable => ?_
      split
      · exact P.fail _
      · rename_i rows hrows
        refine P.bind (P.mapAll ?_) fun values => P.pure loops _
        rintro ⟨column, hcolumn⟩ -
        exact ih callable rows hrows column hcolumn (Callable.registered_ofValue hcallable)
  | case13 level operands operator hcheck haction hshape =>
      rw [apply.eq_def]
      simp only [hcheck, haction]
      exact P.fail _

theorem evalApplication
    (hev : ∀ (loops : String → Prop) level form, form.LoopsIn loops →
      P.holds loops (ev level form))
    {head : Form} {operands : List Form} (hhead : head.LoopsIn loops)
    (hoperands : ∀ form ∈ operands, form.LoopsIn loops) :
    P.holds loops (evalApplication ev head operands) := by
  have hany : ∀ level form, P.holds (fun _ => True) (ev level form) :=
    fun level form => hev _ level form fun _ _ => trivial
  have happly : ∀ result values, (∀ callable, result = .ok callable → callable.Registered) →
      P.holds loops
        (Comp.ofResult result >>= fun callable => DraftLisp.apply ev 1 callable values) :=
    fun result values hresult => P.ofResult_bind fun callable hcallable =>
      P.apply hany 1 (hresult callable hcallable) values
  refine P.bind (P.mapAll fun form hform => hev loops 0 form (hoperands form hform))
    fun values => ?_
  split
  · exact P.observe_bind fun state => happly _ values fun callable => Callable.registered_ofName
  · refine P.bind (hev loops 0 _ hhead) fun value => ?_
    exact P.observe_bind fun state => happly _ values fun callable => Callable.registered_ofValue

end Application

end Comp.Property

theorem head_of_foreach {head : Form}
    (h : head.symbol?.bind SpecialForm.ofName? = some .foreach) : head = .symbol "FOREACH" := by
  obtain ⟨name, hname, hspecial⟩ := Option.bind_eq_some_iff.mp h
  cases head with
  | symbol other =>
      obtain rfl : other = name := by simpa [Form.symbol?] using hname
      unfold SpecialForm.ofName? at hspecial
      split at hspecial
      all_goals first | rfl | cases hspecial
  | _ => simp [Form.symbol?] at hname

namespace Comp.Property

variable (P : Comp.Property) {loops : String → Prop}

theorem evalForm (rounds : Nat) {ev : Evaluator}
    (hev : ∀ (loops : String → Prop) level form, form.LoopsIn loops →
      P.holds loops (ev level form))
    {form : Form} (hform : form.LoopsIn loops) : P.holds loops (evalForm rounds ev form) := by
  fun_cases DraftLisp.evalForm rounds ev form with
  | case1 value => exact P.pure loops _
  | case2 text => exact P.pure loops _
  | case3 name => exact P.observe _
  | case4 => exact P.pure loops _
  | case5 head operands hspecial =>
      have hitems := (Form.loopsIn_list_iff.mp hform).2
      exact P.evalApplication hev (hitems head (by simp))
        fun form hoperand => hitems form (by simp [hoperand])
  | case6 head operands special hspecial action haction =>
      obtain ⟨hvariable, hitems⟩ := Form.loopsIn_list_iff.mp hform
      refine P.action (hev loops 0) rounds
        (fun form hoperand => hitems form (by simp [hoperand])) ?_ haction
      rintro rfl name rest rfl
      obtain rfl := head_of_foreach hspecial
      exact hvariable name rfl
  | case7 head operands special hspecial haction => exact P.fail _

theorem eval (rounds limit room level : Nat) {form : Form} (hform : form.LoopsIn loops) :
    P.holds loops (eval rounds limit room level form) := by
  -- Each level takes room, so that the room alone carries the induction.
  induction room generalizing loops level form with
  | zero =>
      rw [DraftLisp.eval]
      exact P.fail _
  | succ room ih =>
      cases level with
      | zero =>
          rw [DraftLisp.eval]
          exact P.evalForm rounds (fun loops level form h => ih level h) hform
      | succ level =>
          rw [DraftLisp.eval]
          exact ih level hform

theorem evalProgram (rounds limit : Nat) (forms : List Form) :
    P.holds loops (evalProgram rounds limit forms) :=
  P.evalBody .nil fun _ _ => P.within loops [] (P.eval rounds limit limit 0 fun _ _ => trivial)

end Comp.Property

end DraftLisp

import DraftLisp.Evaluation
import DraftLisp.Proofs.Evaluation.Application
import DraftLisp.Proofs.Simulation.Editing
import DraftLisp.Proofs.Simulation.Runs

/-!
The two evaluations of a form may differ in how deep they may nest if the shallower one may be cut
off, and in how often a loop may go round if there are no loops.
-/

namespace DraftLisp

namespace Simulation

variable {S : Simulation} {ev ev' : Form → Comp Value}

/-- Evaluators that go alike on every form with spoken names. -/
def Evaluates (S : Simulation) (ev ev' : Form → Comp Value) : Prop :=
  ∀ form, form.Speaks S.spoken → S.Simulates S.values (ev form) (ev' form)

theorem simulates_evalBody {forms : List Form} (h : ∀ form ∈ forms,
    S.Simulates S.values (ev form) (ev' form)) {last last' : Value} (hlast : S.values last last') :
    S.Simulates S.values (evalBody ev last forms) (evalBody ev' last' forms) := by
  induction forms generalizing last last' with
  | nil => exact .pure hlast
  | cons form rest ih =>
      refine (h form (by simp)).bind fun value value' hvalue => ?_
      exact ih (fun other hother => h other (by simp [hother])) hvalue

theorem spoken_paramNames {owner : String} {forms : List Form} {names : List String}
    (h : Callable.paramNames owner forms = .ok names)
    (hforms : ∀ form ∈ forms, form.Speaks S.spoken) : ∀ name ∈ names, S.spoken name := by
  fun_induction Callable.paramNames owner forms generalizing names with
  | case1 =>
      cases h
      simp
  | case2 rest =>
      cases h
      simp
  | case3 name rest hname ih =>
      cases hrest : Callable.paramNames owner rest with
      | error error => simp [hrest, bind, Except.bind] at h
      | ok others =>
          obtain rfl : name :: others = names := by
            simpa [hrest, bind, Except.bind, pure, Except.pure] using h
          intro other hother
          rcases List.mem_cons.mp hother with rfl | hother
          · exact Form.speaks_symbol_iff.mp (hforms _ List.mem_cons_self)
          · exact ih hrest (fun form hform => hforms form (by simp [hform])) other hother
  | case4 form rest hform => cases h

theorem spoken_params {owner : String} {form : Form} {names : List String}
    (h : Callable.params owner form = .ok names) (hform : form.Speaks S.spoken) :
    ∀ name ∈ names, S.spoken name := by
  unfold Callable.params at h
  split at h
  · exact spoken_paramNames h (Form.speaks_list_iff.mp hform)
  · cases h
    simp
  · cases h

/-- Callables that do the same, where functions have kept corresponding variables. -/
inductive Callables (S : Simulation) : Callable → Callable → Prop
  | builtin {operator : Builtin} : operator ∈ Builtin.all → S.spoken operator.name →
      Callables S (.builtin operator) (.builtin operator)
  | closure {params : List String} {body : List Form} {captured captured' : Bindings Value} :
      (∀ param ∈ params, S.spoken param) → (∀ form ∈ body, form.Speaks S.spoken) →
      S.frames captured captured' →
      Callables S (.closure params body captured) (.closure params body captured')
  | function {function : Function} : function.Speaks S.spoken →
      Callables S (.function function) (.function function)

variable (hS : S.Lawful)

section Callables

variable {state other : State} (h : S.States state other)

include hS h

theorem Lawful.binding? {name : String} (hname : S.spoken name) :
    Option.Rel S.values (state.binding? name) (other.binding? name) :=
  hS.binding h.frame h.globals hname

theorem Lawful.lookup {name : String} (hname : S.spoken name) :
    S.values (state.lookup name) (other.lookup name) := by
  apply hS.ofOption
  unfold State.constant?
  split
  · exact .some hS.truth
  · exact .some hS.nil
  · exact .some (hS.number _)
  · exact hS.binding? h hname

theorem Lawful.outcomes_ofName {name : String} (hname : S.spoken name) :
    S.Outcomes S.Callables (Callable.ofName state name) (Callable.ofName other name) := by
  unfold Callable.ofName Callable.ofName?
  cases hfind : Builtin.find? name with
  | some operator =>
      have heq : operator.name = name := by simpa using List.find?_some hfind
      exact .ok (.builtin (List.mem_of_find?_eq_some hfind) (heq ▸ hname))
  | none =>
      have hbinding := hS.binding? h hname
      have hfunction : ∀ function, state.functions.get? name = some function →
          S.Callables (.function function) (.function function) :=
        fun _ hget => .function (h.speaks hget).2
      rw [← h.functions]
      revert hbinding
      simp only
      generalize state.functions.get? name = found at hfunction ⊢
      generalize state.binding? name = value
      generalize other.binding? name = value'
      rintro (hvalue | _)
      · cases hS.lift_iff.mp hvalue with
        | closure hparams hbody hcaptured => exact .ok (.closure hparams hbody hcaptured)
        | _ =>
            cases found with
            | some function => exact .ok (hfunction function rfl)
            | none => exact .error (.refl _)
      · cases found with
        | some function => exact .ok (hfunction function rfl)
        | none => exact .error (.refl _)

theorem Lawful.snapshot_rel : S.frames state.snapshot other.snapshot :=
  hS.snapshot h.frame h.globals

omit hS h in
theorem outcomes_params {owner : String} {form : Form} (hform : form.Speaks S.spoken) :
    S.Outcomes (fun names names' => names = names' ∧ ∀ name ∈ names, S.spoken name)
      (Callable.params owner form) (Callable.params owner form) :=
  .of_self fun _ hnames => ⟨rfl, spoken_params hnames hform⟩

theorem Lawful.outcomes_ofLambda {rest rest' : List Value}
    (hvalue : S.values (.list (.symbol "LAMBDA" :: rest)) (.list (.symbol "LAMBDA" :: rest'))) :
    S.Outcomes S.Callables (Callable.ofValue state (.list (.symbol "LAMBDA" :: rest)))
      (Callable.ofValue other (.list (.symbol "LAMBDA" :: rest'))) := by
  obtain ⟨hform, hspeaks⟩ := hS.form?_eq hvalue
  rw [Callable.ofValue, Callable.ofValue, ← hform]
  revert hspeaks
  generalize Value.form? _ = form
  intro hspeaks
  split
  · rename_i head parameters body
    have hitems := Form.speaks_list_iff.mp (hspeaks _ rfl)
    refine (outcomes_params (hitems parameters (by simp))).bind ?_
    rintro names _ ⟨rfl, hnames⟩
    exact .ok (.closure hnames (fun form hform => hitems form (by simp [hform]))
      (hS.snapshot_rel h))
  · exact .error (.noParameterList hvalue)
  · exact .error (.notFunction hvalue)

omit hS h in
theorem ofValue_cons_of_ne (state : State) {name : String} (h : name ≠ "LAMBDA")
    (rest : List Value) :
    Callable.ofValue state (.list (.symbol name :: rest)) =
      .error (.type (.notFunction (.list (.symbol name :: rest)))) := by
  unfold Callable.ofValue
  split <;> simp_all

theorem Lawful.outcomes_ofValue {value value' : Value} (hvalue : S.values value value') :
    S.Outcomes S.Callables (Callable.ofValue state value) (Callable.ofValue other value') := by
  cases hS.lift_iff.mp hvalue with
  | symbol hname => exact hS.outcomes_ofName h hname
  | closure hparams hbody hcaptured => exact .ok (.closure hparams hbody hcaptured)
  | list _ hitems =>
      rcases hitems with _ | ⟨hhead, hrest⟩
      · exact .error (.notFunction hvalue)
      · cases hS.lift_iff.mp hhead with
        | @symbol name hname =>
            by_cases hlambda : name = "LAMBDA"
            · subst hlambda
              exact hS.outcomes_ofLambda h hvalue
            · rw [ofValue_cons_of_ne state hlambda, ofValue_cons_of_ne other hlambda]
              exact .error (.notFunction hvalue)
        | _ => exact .error (.notFunction hvalue)
  | _ => exact .error (.notFunction hvalue)

end Callables

section SpecialForms

open SpecialForm DraftLisp.Comp

omit hS in
theorem simulates_params {owner : String} {form : Form} (hform : form.Speaks S.spoken)
    {next next' : List String → Comp Value}
    (h : ∀ names, (∀ name ∈ names, S.spoken name) →
      S.Simulates S.values (next names) (next' names)) :
    S.Simulates S.values (ofResult (Callable.params owner form) >>= next)
      (ofResult (Callable.params owner form) >>= next') := by
  refine (Simulates.ofResult (outcomes_params hform)).bind ?_
  rintro names _ ⟨rfl, hnames⟩
  exact h names hnames

include hS

theorem Lawful.simulates_makeClosure {parameters : Form} (hparameters : parameters.Speaks S.spoken)
    {body : List Form} (hbody : ∀ form ∈ body, form.Speaks S.spoken) :
    S.Simulates S.values (makeClosure parameters body) (makeClosure parameters body) := by
  refine simulates_params hparameters fun params hparams state other h => ?_
  refine .value (hS.lift_iff.mpr ?_) h.addClosure
  rw [h.nextClosure]
  exact .closure hparams hbody (hS.snapshot_rel h)

theorem Lawful.simulates_nameFunction (hev : S.Evaluates ev ev') {form : Form}
    (hform : form.Speaks S.spoken) :
    S.Simulates S.values (nameFunction ev form) (nameFunction ev' form) := by
  unfold nameFunction
  split
  · exact .pure (hS.symbol (Form.speaks_symbol_iff.mp hform))
  · exact hev _ hform
  · exact .pure (hS.ofForm hform)

omit hS in
theorem outcomes_assignable {form : Form} (hform : form.Speaks S.spoken) :
    S.Outcomes (fun name name' => name = name' ∧ S.spoken name ∧ State.constant? name = none)
      (assignable form) (assignable form) := by
  refine .of_self fun name hname => ⟨rfl, ?_⟩
  unfold assignable at hname
  split at hname
  · split at hname
    · cases hname
    · rename_i hconstant
      cases hname
      exact ⟨Form.speaks_symbol_iff.mp hform, by simpa using hconstant⟩
  · cases hname

theorem Lawful.simulates_assign {operands : List Form}
    (h : ∀ form ∈ operands, form.Speaks S.spoken) (hev : S.Evaluates ev ev') {last last' : Value}
    (hlast : S.values last last') :
    S.Simulates S.values (assign ev last operands) (assign ev' last' operands) := by
  match operands, h with
  | [], _ => exact .pure hlast
  | [_], _ => exact .pure hlast
  | target :: form :: rest, h =>
      rw [assign, assign]
      refine (Simulates.ofResult (outcomes_assignable (h _ List.mem_cons_self))).bind ?_
      rintro name _ ⟨rfl, hname, hconstant⟩
      refine (hev form (h form (by simp))).bind fun value value' hvalue => ?_
      refine (Simulates.modify fun state other hstates => hstates.setGlobals
        (hS.globals_put hname hconstant hvalue hstates.globals)).bind fun _ _ _ => ?_
      exact Lawful.simulates_assign (fun other hother => h other (by simp [hother])) hev hvalue

theorem Lawful.simulates_assignPairs {operands : List Form}
    (h : ∀ form ∈ operands, form.Speaks S.spoken) (hev : S.Evaluates ev ev') :
    S.Simulates S.values (assignPairs ev operands) (assignPairs ev' operands) := by
  unfold assignPairs
  split
  · split
    · exact .fail (.refl _)
    · exact hS.simulates_assign h hev hS.nil
  · exact .pure hS.nil

theorem Lawful.simulates_choose (hev : S.Evaluates ev ev') {clauses : List Form}
    (h : ∀ clause ∈ clauses, clause.Speaks S.spoken) :
    S.Simulates S.values (choose ev clauses) (choose ev' clauses) := by
  induction clauses using choose.induct with
  | case1 => exact .pure hS.nil
  | case2 rest ih =>
      rw [choose, choose]
      exact ih fun clause hclause => h clause (by simp [hclause])
  | case3 test body rest ih =>
      rw [choose, choose]
      have hclause := Form.speaks_list_iff.mp (h _ List.mem_cons_self)
      refine (hev test (hclause test (by simp))).bind fun verdict verdict' hverdict => ?_
      rw [hS.isTruthy_eq hverdict]
      split
      · exact simulates_evalBody (fun form hform => hev form (hclause form (by simp [hform])))
          hverdict
      · exact ih fun clause hclause => h clause (by simp [hclause])
  | case4 form rest hempty hclause =>
      rw [choose, choose]
      · exact .fail (.refl _)
      · exact hempty
      · exact hclause
      · exact hempty
      · exact hclause

theorem Lawful.simulates_loopWhile {test : Form} {body : List Form}
    (htest : S.Simulates S.values (ev test) (ev' test))
    (hbody : ∀ form ∈ body, S.Simulates S.values (ev form) (ev' form)) (hendless : S.endless)
    {last last' : Value} (hlast : S.values last last') (rounds : Nat) :
    S.Simulates S.values (loopWhile ev test body last rounds)
      (loopWhile ev' test body last' rounds) := by
  induction rounds generalizing last last' with
  | zero => exact fun _ _ hstates => .halt (.endless hendless) hstates
  | succ rounds ih =>
      refine htest.bind fun verdict verdict' hverdict => ?_
      rw [hS.isTruthy_eq hverdict]
      split
      · exact (simulates_evalBody hbody hS.nil).bind fun value value' hvalue => ih hvalue
      · exact .pure hlast

theorem Lawful.simulates_loopTimes {body : List Form}
    (hbody : ∀ form ∈ body, S.Simulates S.values (ev form) (ev' form))
    {last last' : Value} (hlast : S.values last last') (rounds : Nat) :
    S.Simulates S.values (loopTimes ev body last rounds) (loopTimes ev' body last' rounds) := by
  induction rounds generalizing last last' with
  | zero => exact .pure hlast
  | succ rounds ih =>
      exact (simulates_evalBody hbody hS.nil).bind fun value value' hvalue => ih hvalue

theorem Lawful.simulates_loopOver {name : String} (hname : S.spoken name) {body : List Form}
    (hbody : ∀ form ∈ body, S.Simulates S.values (ev form) (ev' form)) {last last' : Value}
    (hlast : S.values last last') {items items' : List Value}
    (hitems : List.Forall₂ S.values items items') :
    S.Simulates S.values (loopOver ev name body last items)
      (loopOver ev' name body last' items') := by
  induction hitems generalizing last last' with
  | nil => exact .pure hlast
  | cons hitem hrest ih =>
      refine (Simulates.modify fun state other hstates =>
        hstates.setFrame (hS.frames_put hname hitem hstates.frame)).bind fun _ _ _ => ?_
      exact (simulates_evalBody hbody hS.nil).bind fun value value' hvalue => ih hvalue

theorem Lawful.simulates_repeatBody {count : Form} {body : List Form}
    (hcount : S.Simulates S.values (ev count) (ev' count))
    (hbody : ∀ form ∈ body, S.Simulates S.values (ev form) (ev' form)) :
    S.Simulates S.values (repeatBody ev count body) (repeatBody ev' count body) := by
  refine hcount.bind fun value value' hvalue => ?_
  rw [hS.number?_eq hvalue]
  split
  · exact .fail (.operand "repeat" "number" hvalue)
  · exact hS.simulates_loopTimes hbody hS.nil _

theorem Lawful.simulates_foreachItem {target list : Form} {body : List Form}
    (htarget : target.Speaks S.spoken) (hlist : S.Simulates S.values (ev list) (ev' list))
    (hbody : ∀ form ∈ body, S.Simulates S.values (ev form) (ev' form)) :
    S.Simulates S.values (foreachItem ev target list body) (foreachItem ev' target list body) := by
  unfold foreachItem
  split
  · rename_i name
    refine hlist.bind fun value value' hvalue => ?_
    rcases hS.items_cases hvalue with ⟨hnone, hnone'⟩ | ⟨items, items', hitems, hitems', hrel⟩
    · rw [hnone, hnone']
      exact .fail (.operand "foreach" "list" hvalue)
    · rw [hitems, hitems']
      exact hS.simulates_loopOver (Form.speaks_symbol_iff.mp htarget) hbody hS.nil hrel
  · exact .fail (.refl _)

theorem Lawful.simulates_define {name parameters : Form} {body : List Form}
    (hname : name.Speaks S.spoken) (hparameters : parameters.Speaks S.spoken)
    (hbody : ∀ form ∈ body, form.Speaks S.spoken) :
    S.Simulates S.values (define name parameters body) (define name parameters body) := by
  unfold define
  split
  · rename_i name
    have hname := Form.speaks_symbol_iff.mp hname
    refine simulates_params hparameters fun params hparams => ?_
    refine (Simulates.modify fun state other hstates =>
      hstates.putFunction hname ⟨hname, hparams, hbody⟩).bind fun _ _ _ => ?_
    exact .pure (hS.symbol hname)
  · exact .fail (.refl _)

theorem Lawful.simulates_allTrue {forms : List Form}
    (h : ∀ form ∈ forms, S.Simulates S.values (ev form) (ev' form)) :
    S.Simulates S.values (allTrue ev forms) (allTrue ev' forms) := by
  induction forms with
  | nil => exact .pure hS.truth
  | cons form rest ih =>
      refine (h form (by simp)).bind fun value value' hvalue => ?_
      rw [hS.isTruthy_eq hvalue]
      split
      · exact ih fun other hother => h other (by simp [hother])
      · exact .pure hS.nil

theorem Lawful.simulates_firstTrue {forms : List Form}
    (h : ∀ form ∈ forms, S.Simulates S.values (ev form) (ev' form)) :
    S.Simulates S.values (firstTrue ev forms) (firstTrue ev' forms) := by
  induction forms with
  | nil => exact .pure hS.nil
  | cons form rest ih =>
      refine (h form (by simp)).bind fun value value' hvalue => ?_
      rw [hS.isTruthy_eq hvalue]
      split
      · exact .pure hvalue
      · exact ih fun other hother => h other (by simp [hother])

theorem Lawful.simulates_conditional {test yes : Form} {no no' : Comp Value}
    (htest : S.Simulates S.values (ev test) (ev' test))
    (hyes : S.Simulates S.values (ev yes) (ev' yes)) (hno : S.Simulates S.values no no') :
    S.Simulates S.values (do if (← ev test).isTruthy then ev yes else no)
      (do if (← ev' test).isTruthy then ev' yes else no') := by
  refine htest.bind fun verdict verdict' hverdict => ?_
  rw [hS.isTruthy_eq hverdict]
  split
  · exact hyes
  · exact hno

theorem Lawful.simulates_action (hev : S.Evaluates ev ev') {rounds rounds' : Nat}
    {special : SpecialForm} {operands : List Form}
    (hwhile : special = .whileLoop → rounds = rounds' ∧ S.endless)
    (hoperands : ∀ form ∈ operands, form.Speaks S.spoken) :
    Option.Rel (S.Simulates S.values) (special.action? rounds ev operands)
      (special.action? rounds' ev' operands) := by
  have hforms : ∀ form ∈ operands, S.Simulates S.values (ev form) (ev' form) :=
    fun form hform => hev form (hoperands form hform)
  unfold action?
  split
  · exact .some (.pure (hS.ofForm (hoperands _ (by simp))))
  · exact .some (hS.simulates_nameFunction hev (hoperands _ (by simp)))
  · exact .some (hS.simulates_assignPairs hoperands hev)
  · exact .some (hS.simulates_conditional (hforms _ (by simp)) (hforms _ (by simp)) (.pure hS.nil))
  · exact .some (hS.simulates_conditional (hforms _ (by simp)) (hforms _ (by simp))
      (hforms _ (by simp)))
  · exact .some (hS.simulates_choose hev hoperands)
  · obtain ⟨rfl, hendless⟩ := hwhile rfl
    exact .some (hS.simulates_loopWhile (hforms _ (by simp))
      (fun form hform => hforms form (by simp [hform])) hendless hS.nil _)
  · exact .some (hS.simulates_repeatBody (hforms _ (by simp))
      fun form hform => hforms form (by simp [hform]))
  · exact .some (hS.simulates_foreachItem (hoperands _ (by simp)) (hforms _ (by simp))
      fun form hform => hforms form (by simp [hform]))
  · exact .some (simulates_evalBody hforms hS.nil)
  · exact .some (hS.simulates_define (hoperands _ (by simp)) (hoperands _ (by simp))
      fun form hform => hoperands form (by simp [hform]))
  · exact .some (hS.simulates_makeClosure (hoperands _ (by simp))
      fun form hform => hoperands form (by simp [hform]))
  · exact .some (hS.simulates_allTrue hforms)
  · exact .some (hS.simulates_firstTrue hforms)
  · exact .none

end SpecialForms

section Application

open DraftLisp.Comp

variable {ev ev' : Evaluator}

include hS

theorem Lawful.frames_bindParams {params : List String} (hparams : ∀ param ∈ params, S.spoken param)
    {values values' : List Value} (hvalues : List.Forall₂ S.values values values')
    {frame frame' : Bindings Value} (hframe : S.frames frame frame') :
    S.frames (Callable.bindParams frame params values)
      (Callable.bindParams frame' params values') := by
  induction params generalizing values values' frame frame' with
  | nil =>
      rw [Callable.bindParams, Callable.bindParams]
      exact hframe
  | cons param params ih =>
      have hparam : S.spoken param := hparams param (by simp)
      have hrest : ∀ other ∈ params, S.spoken other :=
        fun other hother => hparams other (by simp [hother])
      rcases hvalues with _ | ⟨hvalue, hvalues⟩
      · exact ih hrest .nil (hS.frames_put hparam hS.nil hframe)
      · exact ih hrest hvalues (hS.frames_put hparam hvalue hframe)

omit hS in
theorem columns_rel {rows rows' : List (List Value)}
    (h : List.Forall₂ (List.Forall₂ S.values) rows rows') :
    List.Forall₂ (List.Forall₂ S.values) (columns rows) (columns rows') := by
  have hlengths : rows.map List.length = rows'.map List.length := by
    induction h with
    | nil => rfl
    | cons hrow _ ih => rw [List.map_cons, List.map_cons, hrow.length_eq, ih]
  have hindexed (i : Nat) : ((·[i]?) ∘ List.toArray : List Value → Option Value) = (·[i]?) :=
    funext fun row => by simp
  simp only [columns, hlengths, List.filterMap_map, hindexed]
  refine List.forall₂_map_left_iff.mpr (List.forall₂_map_right_iff.mpr ?_)
  refine List.forall₂_same.mpr fun i _ => List.rel_filterMap (fun row row' hrow => ?_) h
  exact getElem?_rel hrow i

omit hS in
theorem simulates_frame {next next' : Bindings Value → Comp Value}
    (h : ∀ frame frame', S.frames frame frame' →
      S.Simulates S.values (next frame) (next' frame')) :
    S.Simulates S.values (Comp.observe (·.frame) >>= next) (Comp.observe (·.frame) >>= next') :=
  (Simulates.observe fun _ _ hstates => hstates.frame).bind h

/-- Reads a value as a callable, and goes on with it. -/
theorem Lawful.simulates_ofValue {head head' : Value} (h : S.values head head')
    {next next' : Callable → Comp Value}
    (hnext : ∀ callable callable', S.Callables callable callable' →
      S.Simulates S.values (next callable) (next' callable')) :
    S.Simulates S.values
      (do next (← ofResult (← Comp.observe (Callable.ofValue · head))))
      (do next' (← ofResult (← Comp.observe (Callable.ofValue · head')))) := by
  refine (Simulates.observe fun _ _ hstates => hS.outcomes_ofValue hstates h).bind ?_
  exact fun _ _ houtcome => (Simulates.ofResult houtcome).bind hnext

theorem Lawful.simulates_apply (hev : ∀ level, S.Evaluates (ev level) (ev' level)) (level : Nat)
    {callable callable' : Callable} (hcallable : S.Callables callable callable')
    {operands operands' : List Value} (hoperands : List.Forall₂ S.values operands operands') :
    S.Simulates S.values (apply ev level callable operands)
      (apply ev' level callable' operands') := by
  have hbody {level : Nat} {body : List Form} (hspeaks : ∀ form ∈ body, form.Speaks S.spoken) :
      S.Simulates S.values (evalBody (ev level) .nil body) (evalBody (ev' level) .nil body) :=
    simulates_evalBody (fun form hform => hev level form (hspeaks form hform)) hS.nil
  -- The operators APPLY and MAPCAR call `apply` again with parts of their operands.
  induction level, callable, operands using apply.induct generalizing callable' operands' with
  | case1 level operands params body captured =>
      cases hcallable with
      | closure hparams hforms hcaptured =>
          rw [apply_closure, apply_closure]
          exact (hbody hforms).within (hS.frames_bindParams hparams hoperands hcaptured)
  | case2 level operands function =>
      cases hcallable with
      | function hfunction =>
          rw [apply_function, apply_function]
          refine simulates_frame fun frame frame' hframe => ?_
          exact (hbody hfunction.body).within
            (hS.frames_bindParams hfunction.params hoperands hframe)
  | case3 level operands operator error hcheck =>
      obtain ⟨hmem, hname⟩ := hcallable
      rw [apply_of_check_error hcheck, apply_of_check_error (hoperands.length_eq ▸ hcheck)]
      exact .fail (.refl _)
  | case4 level operands operator hcheck run haction =>
      obtain ⟨hmem, hname⟩ := hcallable
      have hacts := hS.acts_of_mem hmem hname
      rw [haction] at hacts
      rw [apply_pure hcheck haction, apply_pure (hoperands.length_eq ▸ hcheck) haction]
      exact .ofExcept ((hacts _ _ hoperands).naming _)
  | case5 level operands operator hcheck run haction =>
      obtain ⟨hmem, hname⟩ := hcallable
      have hacts := hS.acts_of_mem hmem hname
      rw [haction] at hacts
      rw [apply_edit hcheck haction, apply_edit (hoperands.length_eq ▸ hcheck) haction]
      exact .edit ((hacts _ _ hoperands).naming _)
  | case6 level operands operator hcheck ask haction =>
      obtain ⟨hmem, hname⟩ := hcallable
      have hacts := hS.acts_of_mem hmem hname
      rw [haction] at hacts
      rw [apply_input hcheck haction, apply_input (hoperands.length_eq ▸ hcheck) haction]
      refine (Simulates.observe fun _ _ hstates => hstates.drawing).bind
        (of_same fun drawing => ?_)
      have hdemand := hacts _ _ drawing hoperands
      revert hdemand
      generalize ask operands drawing = outcome
      generalize ask operands' drawing = outcome'
      rintro ((hvalue | request) | herror)
      · exact .pure hvalue
      · exact .request request
      · exact .fail (herror.named _)
  | case7 level operator haction value hform hcheck =>
      have hcheck' := hoperands.length_eq ▸ hcheck
      obtain _ | ⟨hvalue, _ | _⟩ := hoperands
      obtain ⟨hmem, hname⟩ := hcallable
      rw [apply_eval haction hcheck, apply_eval haction hcheck']
      simp only [← (hS.form?_eq hvalue).1, hform]
      exact .pure hvalue
  | case8 level operator haction value form hform hcheck =>
      have hcheck' := hoperands.length_eq ▸ hcheck
      obtain _ | ⟨hvalue, _ | _⟩ := hoperands
      obtain ⟨hmem, hname⟩ := hcallable
      rw [apply_eval haction hcheck, apply_eval haction hcheck']
      obtain ⟨hsame, hspeaks⟩ := hS.form?_eq hvalue
      simp only [← hsame, hform]
      refine simulates_frame fun frame frame' hframe => ?_
      exact (hev level form (hspeaks form hform)).within hframe
  | case9 level operands operator hcheck haction hshape =>
      obtain ⟨hmem, hname⟩ := hcallable
      rw [apply_eval haction hcheck, apply_eval haction (hoperands.length_eq ▸ hcheck)]
      rcases hoperands with _ | ⟨_, _ | ⟨_, hrest⟩⟩
      · exact .fail (.refl _)
      · exact (hshape _ rfl).elim
      · simp only [List.length_cons, hrest.length_eq]
        exact .fail (.refl _)
  | case10 level operator haction head list hcheck ih =>
      have hcheck' := hoperands.length_eq ▸ hcheck
      obtain _ | ⟨hhead, _ | ⟨hlist, _ | _⟩⟩ := hoperands
      obtain ⟨hmem, hname⟩ := hcallable
      rw [apply_apply haction hcheck, apply_apply haction hcheck']
      refine hS.simulates_ofValue hhead fun callable callable' hcallable => ?_
      rcases hS.items_cases hlist with ⟨hnone, hnone'⟩ | ⟨items, items', hitems, hitems', hrel⟩
      · rw [hnone, hnone']
        exact .fail (.expected "list" hlist)
      · rw [hitems, hitems']
        exact ih callable items hitems hcallable hrel
  | case11 level operands operator hcheck haction hshape =>
      obtain ⟨hmem, hname⟩ := hcallable
      rw [apply_apply haction hcheck, apply_apply haction (hoperands.length_eq ▸ hcheck)]
      rcases hoperands with _ | ⟨_, _ | ⟨_, _ | ⟨_, hrest⟩⟩⟩
      · exact .fail (.refl _)
      · exact .fail (.refl _)
      · exact (hshape _ _ rfl).elim
      · simp only [List.length_cons, hrest.length_eq]
        exact .fail (.refl _)
  | case12 level operator haction head lists hcheck ih =>
      have hcheck' := hoperands.length_eq ▸ hcheck
      obtain _ | ⟨hhead, hlists⟩ := hoperands
      obtain ⟨hmem, hname⟩ := hcallable
      rw [apply_mapcar haction hcheck, apply_mapcar haction hcheck']
      refine hS.simulates_ofValue hhead fun callable callable' hcallable => ?_
      have hrows := Outcomes.mapM hS.reads_list hlists
      revert hrows ih
      generalize lists.mapM Value.expectList = outcome
      generalize List.mapM Value.expectList _ = outcome'
      rintro ih (hrows | herror)
      · refine (Simulates.mapAll ?_).bind fun _ _ hvalues => .pure (hS.ofList hvalues)
        exact forall₂_of_mem (columns_rel hrows) fun column hcolumn _ hrel =>
          ih callable _ rfl column hcolumn hcallable hrel
      · exact .fail herror
  | case13 level operands operator hcheck haction hshape =>
      obtain ⟨hmem, hname⟩ := hcallable
      rw [apply_mapcar haction hcheck, apply_mapcar haction (hoperands.length_eq ▸ hcheck)]
      rcases hoperands with _ | ⟨_, _⟩
      · exact .fail (.refl _)
      · exact (hshape _ _ rfl).elim

theorem Lawful.simulates_evalApplication (hev : ∀ level, S.Evaluates (ev level) (ev' level))
    {head : Form} (hhead : head.Speaks S.spoken) {operands : List Form}
    (hoperands : ∀ form ∈ operands, form.Speaks S.spoken) :
    S.Simulates S.values (evalApplication ev head operands)
      (evalApplication ev' head operands) := by
  have hvalues : S.Simulates (List.Forall₂ S.values) (mapAll (ev 0) operands)
      (mapAll (ev' 0) operands) :=
    .mapAll (List.forall₂_same.mpr fun form hform => hev 0 form (hoperands form hform))
  refine hvalues.bind fun values values' hvalues => ?_
  have happly {outcome outcome' : Except Error Callable}
      (houtcome : S.Outcomes S.Callables outcome outcome') :
      S.Simulates S.values (ofResult outcome >>= fun callable => apply ev 1 callable values)
        (ofResult outcome' >>= fun callable => apply ev' 1 callable values') :=
    (Simulates.ofResult houtcome).bind fun _ _ hcallable =>
      hS.simulates_apply hev 1 hcallable hvalues
  split
  · rename_i name
    exact (Simulates.observe fun _ _ hstates =>
      hS.outcomes_ofName hstates (Form.speaks_symbol_iff.mp hhead)).bind fun _ _ => happly
  · refine (hev 0 _ hhead).bind fun value value' hvalue => ?_
    exact (Simulates.observe fun _ _ hstates =>
      hS.outcomes_ofValue hstates hvalue).bind fun _ _ => happly

omit hS in
theorem head_of_whileLoop {head : Form}
    (h : head.symbol?.bind SpecialForm.ofName? = some .whileLoop) : head = .symbol "WHILE" := by
  obtain ⟨name, hname, hspecial⟩ := Option.bind_eq_some_iff.mp h
  cases head with
  | symbol other =>
      obtain rfl : other = name := by simpa [Form.symbol?] using hname
      unfold SpecialForm.ofName? at hspecial
      split at hspecial
      all_goals first | rfl | cases hspecial
  | _ => simp [Form.symbol?] at hname

theorem Lawful.simulates_evalForm {rounds rounds' : Nat}
    (hwhile : S.spoken "WHILE" → rounds = rounds' ∧ S.endless)
    (hev : ∀ level, S.Evaluates (ev level) (ev' level)) {form : Form}
    (hform : form.Speaks S.spoken) :
    S.Simulates S.values (evalForm rounds ev form) (evalForm rounds' ev' form) := by
  unfold evalForm
  split
  · exact .pure (hS.number _)
  · exact .pure (hS.string _)
  · exact .observe fun _ _ hstates => hS.lookup hstates (Form.speaks_symbol_iff.mp hform)
  · exact .pure hS.nil
  · rename_i head operands
    have hitems := Form.speaks_list_iff.mp hform
    have hoperands : ∀ form ∈ operands, form.Speaks S.spoken :=
      fun form hoperand => hitems form (by simp [hoperand])
    split
    · exact hS.simulates_evalApplication hev (hitems head (by simp)) hoperands
    · rename_i special hspecial
      have hloop : special = .whileLoop → rounds = rounds' ∧ S.endless := by
        rintro rfl
        obtain rfl := head_of_whileLoop hspecial
        exact hwhile (Form.speaks_symbol_iff.mp (hitems _ (by simp)))
      have haction := hS.simulates_action (hev 0) hloop hoperands
      revert haction
      generalize special.action? rounds (ev 0) operands = action
      generalize special.action? rounds' (ev' 0) operands = action'
      rintro (haction | _)
      · exact haction
      · exact .fail (.refl _)

/-- The evaluation of a form goes alike from corresponding states. -/
theorem Lawful.simulates_eval {rounds rounds' limit limit' room room' : Nat}
    (hwhile : S.spoken "WHILE" → rounds = rounds' ∧ S.endless) (hroom : room ≤ room')
    (hlimit : room = room' ∧ limit = limit' ∨ S.cuts (.error (.eval (.depth limit))))
    (level : Nat) :
    S.Evaluates (eval rounds limit room level) (eval rounds' limit' room' level) := by
  -- Each level takes room from both, so that the room alone carries the induction.
  induction room generalizing room' level with
  | zero =>
      intro form _
      rw [eval]
      rcases hlimit with ⟨rfl, rfl⟩ | hcuts
      · rw [eval]
        exact .fail (.refl _)
      · exact .cut hcuts _
  | succ room ih =>
      obtain _ | room' := room'
      · omega
      have hless : room ≤ room' := Nat.le_of_succ_le_succ hroom
      have hevaluates (level : Nat) :
          S.Evaluates (eval rounds limit room level) (eval rounds' limit' room' level) :=
        ih hless (hlimit.imp_left fun h => ⟨Nat.succ.inj h.1, h.2⟩) level
      intro form hform
      cases level with
      | zero =>
          rw [eval, eval]
          exact hS.simulates_evalForm hwhile hevaluates hform
      | succ level =>
          rw [eval, eval]
          exact hevaluates level form hform

theorem Lawful.simulates_evalProgram {rounds rounds' limit limit' : Nat}
    (hwhile : S.spoken "WHILE" → rounds = rounds' ∧ S.endless) (hroom : limit ≤ limit')
    (hlimit : limit = limit' ∨ S.cuts (.error (.eval (.depth limit)))) (hempty : S.frames [] [])
    {forms : List Form} (hforms : ∀ form ∈ forms, form.Speaks S.spoken) :
    S.Simulates S.values (evalProgram rounds limit forms) (evalProgram rounds' limit' forms) := by
  have hlimit : limit = limit' ∧ limit = limit' ∨ S.cuts (.error (.eval (.depth limit))) := by
    simpa using hlimit
  exact simulates_evalBody (fun form hform =>
    (hS.simulates_eval hwhile hroom hlimit 0 form (hforms form hform)).within hempty) hS.nil

end Application

end Simulation

end DraftLisp

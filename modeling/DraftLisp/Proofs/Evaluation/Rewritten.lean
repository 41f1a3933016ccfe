import DraftLisp.Proofs.Evaluation.Application
import DraftLisp.Proofs.Form.Nilled

namespace DraftLisp

section

variable {ev : Form → Comp Value} {change : Form → Form}

theorem evalBody_map {forms : List Form} (h : ∀ form ∈ forms, ev (change form) = ev form)
    (last : Value) : evalBody ev last (forms.map change) = evalBody ev last forms := by
  induction forms generalizing last with
  | nil => rfl
  | cons form rest ih =>
      rw [List.forall_mem_cons] at h
      rw [List.map_cons, evalBody, evalBody, h.1]
      exact bind_congr fun value => ih h.2 value

namespace SpecialForm

theorem allTrue_map {forms : List Form} (h : ∀ form ∈ forms, ev (change form) = ev form) :
    allTrue ev (forms.map change) = allTrue ev forms := by
  induction forms with
  | nil => rfl
  | cons form rest ih =>
      rw [List.forall_mem_cons] at h
      rw [List.map_cons, allTrue, allTrue, h.1, ih h.2]

theorem firstTrue_map {forms : List Form} (h : ∀ form ∈ forms, ev (change form) = ev form) :
    firstTrue ev (forms.map change) = firstTrue ev forms := by
  induction forms with
  | nil => rfl
  | cons form rest ih =>
      rw [List.forall_mem_cons] at h
      rw [List.map_cons, firstTrue, firstTrue, h.1, ih h.2]

theorem loopWhile_map {test : Form} {body : List Form} (htest : ev (change test) = ev test)
    (hbody : ∀ form ∈ body, ev (change form) = ev form) (last : Value) (rounds : Nat) :
    loopWhile ev (change test) (body.map change) last rounds =
      loopWhile ev test body last rounds := by
  induction rounds generalizing last with
  | zero => rfl
  | succ rounds ih =>
      rw [loopWhile, loopWhile, htest]
      refine bind_congr fun verdict => ?_
      rw [evalBody_map hbody]
      simp only [ih]

theorem loopTimes_map {body : List Form} (hbody : ∀ form ∈ body, ev (change form) = ev form)
    (last : Value) (rounds : Nat) :
    loopTimes ev (body.map change) last rounds = loopTimes ev body last rounds := by
  induction rounds generalizing last with
  | zero => rfl
  | succ rounds ih =>
      rw [loopTimes, loopTimes, evalBody_map hbody]
      exact bind_congr fun value => ih value

theorem loopOver_map {body : List Form} (hbody : ∀ form ∈ body, ev (change form) = ev form)
    (name : String) (last : Value) (items : List Value) :
    loopOver ev name (body.map change) last items = loopOver ev name body last items := by
  induction items generalizing last with
  | nil => rfl
  | cons item rest ih =>
      rw [loopOver, loopOver, evalBody_map hbody]
      exact bind_congr fun _ => bind_congr fun value => ih value

theorem repeatBody_map {count : Form} {body : List Form} (hcount : ev (change count) = ev count)
    (hbody : ∀ form ∈ body, ev (change form) = ev form) :
    repeatBody ev (change count) (body.map change) = repeatBody ev count body := by
  rw [repeatBody, repeatBody, hcount]
  simp only [loopTimes_map hbody]

/-- A special form that evaluates all its operands goes the same on rewritten ones. -/
theorem action?_map (rounds : Nat) {special : SpecialForm}
    (hspecial : special ∈ [conditional, whileLoop, repeatLoop, progn, and, or])
    {operands : List Form} (h : ∀ operand ∈ operands, ev (change operand) = ev operand) :
    special.action? rounds ev (operands.map change) = special.action? rounds ev operands := by
  cases special with
  | quote | function | setq | cond | foreach | defun | lambda => simp at hspecial
  | conditional =>
      rcases operands with _ | ⟨test, _ | ⟨yes, _ | ⟨no, _ | _⟩⟩⟩
      · rfl
      · rfl
      · simp only [List.map_cons, List.map_nil, action?, h test (by simp), h yes (by simp)]
      · simp only [List.map_cons, List.map_nil, action?, h test (by simp), h yes (by simp),
          h no (by simp)]
      · rfl
  | whileLoop =>
      cases operands with
      | nil => rfl
      | cons test body =>
          rw [List.forall_mem_cons] at h
          exact congrArg some (loopWhile_map h.1 h.2 .nil rounds)
  | repeatLoop =>
      cases operands with
      | nil => rfl
      | cons count body =>
          rw [List.forall_mem_cons] at h
          exact congrArg some (repeatBody_map h.1 h.2)
  | progn => exact congrArg some (evalBody_map h .nil)
  | and => exact congrArg some (allTrue_map h)
  | or => exact congrArg some (firstTrue_map h)

/-- Names are kept in an assignment, values may be rewritten. -/
theorem assign_flatMap {pairs : List (Form × Form)}
    (htargets : ∀ pair ∈ pairs, change pair.1 = pair.1)
    (hvalues : ∀ pair ∈ pairs, ev (change pair.2) = ev pair.2) (last : Value) :
    assign ev last ((pairs.flatMap fun pair => [pair.1, pair.2]).map change) =
      assign ev last (pairs.flatMap fun pair => [pair.1, pair.2]) := by
  induction pairs generalizing last with
  | nil => rfl
  | cons pair rest ih =>
      rw [List.forall_mem_cons] at htargets hvalues
      change assign ev last (change pair.1 :: change pair.2 ::
        (rest.flatMap fun pair => [pair.1, pair.2]).map change) =
          assign ev last (pair.1 :: pair.2 :: rest.flatMap fun pair => [pair.1, pair.2])
      rw [assign, assign, htargets.1, hvalues.1]
      exact bind_congr fun name => bind_congr fun value => bind_congr fun _ =>
        ih htargets.2 hvalues.2 value

theorem assignPairs_of_even {operands : List Form} (h : operands.length % 2 = 0) :
    assignPairs ev operands = assign ev .nil operands := by
  unfold assignPairs
  split
  · rw [if_neg (by omega)]
  · rename_i hlast
    rw [List.getLast?_eq_none_iff.mp hlast]
    rfl

theorem assignPairs_flatMap {pairs : List (Form × Form)}
    (htargets : ∀ pair ∈ pairs, change pair.1 = pair.1)
    (hvalues : ∀ pair ∈ pairs, ev (change pair.2) = ev pair.2) :
    assignPairs ev ((pairs.flatMap fun pair => [pair.1, pair.2]).map change) =
      assignPairs ev (pairs.flatMap fun pair => [pair.1, pair.2]) := by
  have heven : (pairs.flatMap fun pair => [pair.1, pair.2]).length % 2 = 0 := by
    simp [List.length_flatMap]
  rw [assignPairs_of_even heven, assignPairs_of_even (by rwa [List.length_map]),
    assign_flatMap htargets hvalues]

theorem foreachItem_map {list : Form} {body : List Form} (hlist : ev (change list) = ev list)
    (hbody : ∀ form ∈ body, ev (change form) = ev form) (target : Form) :
    foreachItem ev target (change list) (body.map change) = foreachItem ev target list body := by
  rw [foreachItem.eq_def, foreachItem.eq_def, hlist]
  simp only [loopOver_map hbody]

open Form

/-- An empty clause is passed over, but `NIL` is no clause. -/
theorem choose_nilled {clauses : List Form} (hempty : .list [] ∉ clauses)
    (h : ∀ items, .list items ∈ clauses → ∀ item ∈ items, ev item.nilled = ev item) :
    choose ev (clauses.map nilled) = choose ev clauses := by
  induction clauses with
  | nil => rfl
  | cons clause rest ih =>
      have hrest := ih (fun hmem => hempty (List.mem_cons_of_mem _ hmem))
        fun items hitems => h items (List.mem_cons_of_mem _ hitems)
      rcases clause with _ | _ | _ | _ | ⟨test, body⟩
      · rfl
      · rfl
      · rfl
      · exact (hempty List.mem_cons_self).elim
      · have hclause := h _ List.mem_cons_self
        rw [List.forall_mem_cons] at hclause
        rw [List.map_cons, nilled_call, choose, choose, hclause.1]
        refine bind_congr fun verdict => ?_
        rw [evalBody_map hclause.2, hrest]

theorem params_nilled {parameters : Form}
    (h : parameters = .list [] ∨ parameters.nilled = parameters) (owner : String) :
    Callable.params owner parameters.nilled = Callable.params owner parameters := by
  obtain rfl | h := h
  · rfl
  · rw [h]

theorem nameFunction_list {first : Form} (h : first ≠ .symbol "LAMBDA") (rest : List Form) :
    nameFunction ev (.list (first :: rest)) = pure (.ofForm (.list (first :: rest))) := by
  unfold nameFunction
  split
  · rename_i hsymbol
    cases hsymbol
  · rename_i hlambda
    cases hlambda
    exact (h rfl).elim
  · rfl

theorem nameFunction_nilled {form : Form} (hempty : form ≠ .list [])
    (h : ∀ items, form = .list (.symbol "LAMBDA" :: items) → ev form.nilled = ev form) :
    nameFunction ev form.nilled = nameFunction ev form := by
  rcases form with _ | _ | _ | _ | ⟨first, rest⟩
  · rfl
  · rfl
  · rfl
  · exact (hempty rfl).elim
  · by_cases hfirst : first = .symbol "LAMBDA"
    · subst hfirst
      have hlambda := h rest rfl
      rw [nilled_call] at hlambda ⊢
      exact hlambda
    · have hnilled : first.nilled ≠ .symbol "LAMBDA" :=
        fun hlambda => hfirst (eq_symbol_of_nilled (by decide) hlambda)
      rw [nilled_call, nameFunction_list hnilled, nameFunction_list hfirst, ← nilled_call,
        Value.ofForm_nilled]

end SpecialForm

end

section

open Form SpecialForm

variable {rounds : Nat} {ev : Evaluator}

theorem evalForm_call {head : Form} (h : head.symbol?.bind SpecialForm.ofName? = none)
    (operands : List Form) :
    evalForm rounds ev (.list (head :: operands)) = evalApplication ev head operands := by
  rw [evalForm, h]

theorem evalForm_special {name : String} {special : SpecialForm}
    (hname : SpecialForm.ofName? name = some special) {operands : List Form} {action : Comp Value}
    (haction : special.action? rounds (ev 0) operands = some action) :
    evalForm rounds ev (.list (.symbol name :: operands)) = action := by
  have hhead : (Form.symbol name).symbol?.bind SpecialForm.ofName? = some special := hname
  rw [evalForm, hhead]
  simp only [haction]

theorem evalApplication_nilled {head : Form} {operands : List Form} (hempty : head ≠ .list [])
    (hhead : ev 0 head.nilled = ev 0 head)
    (hoperands : ∀ operand ∈ operands, ev 0 operand.nilled = ev 0 operand) :
    evalApplication ev head.nilled (operands.map nilled) = evalApplication ev head operands := by
  have hvalues := (Comp.mapAll_map (ev 0) nilled operands).trans (Comp.mapAll_congr hoperands)
  rw [evalApplication.eq_def, evalApplication.eq_def, hvalues]
  refine bind_congr fun values => ?_
  cases head with
  | list items =>
      rw [nilled_list fun hitems => hempty (congrArg Form.list hitems)] at hhead ⊢
      simp only [hhead]
  | _ => rfl

/-- Where empty lists mean `nil`, one step of evaluation does the same with `NIL` for each. -/
theorem evalForm_nilled (hev : ∀ form : Form, form.Indifferent → ev 0 form.nilled = ev 0 form)
    {form : Form} (h : form.Indifferent) :
    evalForm rounds ev form.nilled = evalForm rounds ev form := by
  cases h with
  | full h => rw [h]
  | empty => rfl
  | @call head operands hspecial hempty hhead hoperands =>
      rw [nilled_call, evalForm_call hspecial, evalForm_call (by rwa [symbol?_nilled hempty])]
      exact evalApplication_nilled hempty (hev head hhead) fun operand hoperand =>
        hev operand (hoperands operand hoperand)
  | quoted form =>
      rw [Form.quoted, nilled_call]
      exact congrArg pure (Value.ofForm_nilled form)
  | @function form hempty h =>
      rw [nilled_call]
      exact nameFunction_nilled hempty fun items hform => hev form (h items hform)
  | @evaluated name special operands hname hspecial hcount hoperands =>
      have haction := action?_map rounds hspecial fun operand hoperand =>
        hev operand (hoperands operand hoperand)
      obtain ⟨action, hsome⟩ : ∃ action, special.action? rounds (ev 0) operands = some action := by
        rw [← Option.isSome_iff_exists, isSome_action?, hcount]
      rw [nilled_call, evalForm_special hname hsome]
      exact evalForm_special hname (haction.trans hsome)
  | setq htargets hvalues =>
      rw [nilled_call]
      exact assignPairs_flatMap htargets fun pair hpair => hev pair.2 (hvalues pair hpair)
  | cond hempty hclauses =>
      rw [nilled_call]
      exact choose_nilled hempty fun items hitems item hitem =>
        hev item (hclauses items hitems item hitem)
  | @foreach target list body htarget hlist hbody =>
      rw [nilled_call, List.map_cons, List.map_cons, htarget]
      exact foreachItem_map (hev list hlist) (fun form hform => hev form (hbody form hform)) target
  | @lambda parameters body hparameters hbody =>
      rw [nilled_call, List.map_cons, map_nilled_eq_self hbody]
      change makeClosure parameters.nilled body = makeClosure parameters body
      rw [makeClosure, makeClosure, params_nilled hparameters]
  | @defun target parameters body htarget hparameters hbody =>
      rw [nilled_call, List.map_cons, List.map_cons, htarget, map_nilled_eq_self hbody]
      change define target parameters.nilled body = define target parameters body
      rw [define.eq_def, define.eq_def, params_nilled hparameters]

/-- A form in which empty lists mean `nil` goes the same with `NIL` for each of them. -/
theorem eval_nilled (rounds limit room level : Nat) {form : Form} (h : form.Indifferent) :
    eval rounds limit room level form.nilled = eval rounds limit room level form := by
  -- The parts of a form have less room, so the step needs no induction on the form.
  induction room generalizing level form with
  | zero => rfl
  | succ room ih =>
      cases level with
      | zero => exact evalForm_nilled (fun form h => ih 0 h) h
      | succ level => exact ih level h

end

end DraftLisp

import DraftLisp.Evaluation.SpecialForm
import DraftLisp.Proofs.Simulation.Values

namespace DraftLisp

namespace Form

mutual

/-- The form with `NIL` for every empty list in it. -/
def nilled : Form → Form
  | .list [] => .symbol "NIL"
  | .list (first :: rest) => .list (nilled first :: nilledAll rest)
  | form => form

def nilledAll : List Form → List Form
  | [] => []
  | form :: rest => nilled form :: nilledAll rest

end

theorem nilledAll_eq_map (forms : List Form) : nilledAll forms = forms.map nilled := by
  induction forms with
  | nil => rfl
  | cons form rest ih => rw [nilledAll, List.map_cons, ih]

theorem nilled_list {items : List Form} (h : items ≠ []) :
    (Form.list items).nilled = .list (items.map nilled) := by
  cases items with
  | nil => exact (h rfl).elim
  | cons first rest => rw [nilled, nilledAll_eq_map, List.map_cons]

theorem nilled_call (head : Form) (operands : List Form) :
    (Form.list (head :: operands)).nilled = .list (head.nilled :: operands.map nilled) := by
  rw [nilled_list (List.cons_ne_nil _ _), List.map_cons]

/-- Only an empty list becomes a name. -/
theorem symbol?_nilled {form : Form} (h : form ≠ .list []) :
    form.nilled.symbol? = form.symbol? := by
  rcases form with _ | _ | _ | _ | ⟨first, rest⟩
  · rfl
  · rfl
  · rfl
  · exact (h rfl).elim
  · rfl

theorem eq_symbol_of_nilled {form : Form} {name : String} (hname : name ≠ "NIL")
    (h : form.nilled = .symbol name) : form = .symbol name := by
  rcases form with _ | _ | _ | _ | ⟨first, rest⟩
  · cases h
  · cases h
  · exact h
  · cases h
    exact (hname rfl).elim
  · cases h

theorem map_nilled_eq_self {forms : List Form} (h : ∀ form ∈ forms, form.nilled = form) :
    forms.map nilled = forms :=
  (List.map_congr_left h).trans (List.map_id forms)

/-- Empty lists stand only where they mean `nil`: where a form is evaluated, in quoted data, or as
the parameters of a function. A form that is stored or named in an error has none. -/
inductive Indifferent : Form → Prop
  | full {form : Form} (h : form.nilled = form) : Indifferent form
  | empty : Indifferent (.list [])
  | call {head : Form} {operands : List Form}
      (hspecial : head.symbol?.bind SpecialForm.ofName? = none) (hempty : head ≠ .list [])
      (hhead : Indifferent head) (hoperands : ∀ operand ∈ operands, Indifferent operand) :
      Indifferent (.list (head :: operands))
  | quoted (form : Form) : Indifferent form.quoted
  | function {form : Form} (hempty : form ≠ .list [])
      (h : ∀ items, form = .list (.symbol "LAMBDA" :: items) → Indifferent form) :
      Indifferent (.list [.symbol "FUNCTION", form])
  /-- The special forms whose operands are all evaluated. -/
  | evaluated {name : String} {special : SpecialForm} {operands : List Form}
      (hname : SpecialForm.ofName? name = some special)
      (hspecial : special ∈ [SpecialForm.conditional, .whileLoop, .repeatLoop, .progn, .and, .or])
      (hcount : special.arity.accepts operands.length = true)
      (hoperands : ∀ operand ∈ operands, Indifferent operand) :
      Indifferent (.list (.symbol name :: operands))
  | setq {pairs : List (Form × Form)} (htargets : ∀ pair ∈ pairs, pair.1.nilled = pair.1)
      (hvalues : ∀ pair ∈ pairs, Indifferent pair.2) :
      Indifferent (.list (.symbol "SETQ" :: pairs.flatMap fun pair => [pair.1, pair.2]))
  | cond {clauses : List Form} (hempty : .list [] ∉ clauses)
      (hclauses : ∀ items, .list items ∈ clauses → ∀ item ∈ items, Indifferent item) :
      Indifferent (.list (.symbol "COND" :: clauses))
  | foreach {target list : Form} {body : List Form} (htarget : target.nilled = target)
      (hlist : Indifferent list) (hbody : ∀ form ∈ body, Indifferent form) :
      Indifferent (.list (.symbol "FOREACH" :: target :: list :: body))
  | lambda {parameters : Form} {body : List Form}
      (hparameters : parameters = .list [] ∨ parameters.nilled = parameters)
      (hbody : ∀ form ∈ body, form.nilled = form) :
      Indifferent (.list (.symbol "LAMBDA" :: parameters :: body))
  | defun {target parameters : Form} {body : List Form} (htarget : target.nilled = target)
      (hparameters : parameters = .list [] ∨ parameters.nilled = parameters)
      (hbody : ∀ form ∈ body, form.nilled = form) :
      Indifferent (.list (.symbol "DEFUN" :: target :: parameters :: body))

end Form

namespace Value

open Form

theorem forms?_map_ofForm {forms : List Form}
    (h : ∀ form ∈ forms, (ofForm form).form? = some form.nilled) :
    forms? (forms.map ofForm) = some (forms.map nilled) := by
  induction forms with
  | nil => rfl
  | cons form rest ih =>
      rw [List.forall_mem_cons] at h
      rw [List.map_cons, forms?, h.1, ih h.2, List.map_cons]

/-- Data that was a form is read as the form with `NIL` for every empty list. -/
theorem form?_ofForm (form : Form) : (ofForm form).form? = some form.nilled := by
  induction form using Form.induction with
  | number value => rfl
  | string text => rfl
  | symbol name =>
      by_cases hname : name = "NIL"
      · rw [hname]
        rfl
      · rw [ofForm, if_neg hname]
        rfl
  | list items ih =>
      cases items with
      | nil => rfl
      | cons first rest =>
          have hitems := forms?_map_ofForm ih
          rw [ofForm, ofForms_eq_map, nilled_list (List.cons_ne_nil _ _)]
          change (forms? ((first :: rest).map ofForm)).map Form.list = _
          rw [hitems]
          rfl

/-- As data a form is the same with `NIL` for every empty list. -/
theorem ofForm_nilled (form : Form) : ofForm form.nilled = ofForm form := by
  induction form using Form.induction with
  | number value => rfl
  | string text => rfl
  | symbol name => rfl
  | list items ih =>
      cases items with
      | nil => rfl
      | cons first rest =>
          rw [nilled_list (List.cons_ne_nil _ _), ofForm, ofForm, ofForms_eq_map, ofForms_eq_map,
            List.map_map]
          exact congrArg ofList (List.map_congr_left ih)

end Value

end DraftLisp

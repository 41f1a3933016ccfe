import Mathlib.Data.List.Forall2
import DraftLisp.Builtin.Basic
import DraftLisp.Evaluation.State
import DraftLisp.Form.Reader

/-!
Two evaluations side by side: which values and errors of the one correspond to those of the other.
Corresponding values have the same shape and the same text, and differ at most in the variables that
functions in them have kept.
-/

namespace DraftLisp

namespace Form

mutual

/-- The names that stand anywhere in a form. -/
def symbols : Form → List String
  | .symbol name => [name]
  | .list items => symbolsOf items
  | _ => []

def symbolsOf : List Form → List String
  | [] => []
  | item :: rest => item.symbols ++ symbolsOf rest

end

theorem mem_symbolsOf {name : String} {items : List Form} :
    name ∈ symbolsOf items ↔ ∃ item ∈ items, name ∈ item.symbols := by
  induction items with
  | nil => simp [symbolsOf]
  | cons item rest ih => simp [symbolsOf, ih]

/-- All names in a form are among those that may be spoken. -/
def Speaks (spoken : String → Prop) (form : Form) : Prop := ∀ name ∈ form.symbols, spoken name

theorem speaks_number (spoken : String → Prop) (value : Float) :
    (Form.number value).Speaks spoken := by
  simp [Speaks, symbols]

theorem speaks_string (spoken : String → Prop) (text : String) :
    (Form.string text).Speaks spoken := by
  simp [Speaks, symbols]

theorem speaks_symbol_iff {spoken : String → Prop} {name : String} :
    (Form.symbol name).Speaks spoken ↔ spoken name := by
  simp [Speaks, symbols]

theorem speaks_list_iff {spoken : String → Prop} {items : List Form} :
    (Form.list items).Speaks spoken ↔ ∀ item ∈ items, item.Speaks spoken := by
  simp only [Speaks, symbols, mem_symbolsOf]
  constructor
  · intro h item hitem name hname
    exact h name ⟨item, hitem, hname⟩
  · rintro h name ⟨item, hitem, hname⟩
    exact h item hitem name hname

/-- Induction on forms, with a hypothesis for each element of a list. -/
theorem induction {P : Form → Prop} (number : ∀ value, P (.number value))
    (string : ∀ text, P (.string text)) (symbol : ∀ name, P (.symbol name))
    (list : ∀ items, (∀ item ∈ items, P item) → P (.list items)) : ∀ form, P form
  | .number value => number value
  | .string text => string text
  | .symbol name => symbol name
  | .list items => list items fun item _ => induction number string symbol list item

end Form

/-- Induction on values, with a hypothesis for each element of a list and for each variable that a
function has kept. -/
theorem Value.induction {P : Value → Prop} (nil : P .nil) (truth : P .truth)
    (number : ∀ value, P (.number value)) (string : ∀ text, P (.string text))
    (symbol : ∀ name, P (.symbol name))
    (list : ∀ items, (∀ item ∈ items, P item) → P (.list items))
    (closure : ∀ identity params body captured,
      (∀ name value, Bindings.get? captured name = some value → P value) →
        P (.closure identity params body captured))
    (entity : ∀ id, P (.entity id)) (selection : ∀ ids, P (.selection ids)) : ∀ value, P value
  | .nil => nil
  | .truth => truth
  | .number value => number value
  | .string text => string text
  | .symbol name => symbol name
  | .list items => list items fun item _ =>
      induction nil truth number string symbol list closure entity selection item
  | .closure identity params body captured =>
      closure identity params body captured fun name value h =>
        have := List.sizeOf_lt_of_mem (Bindings.mem_of_get? h)
        induction nil truth number string symbol list closure entity selection value
  | .entity id => entity id
  | .selection ids => selection ids
termination_by value => sizeOf value
decreasing_by
  · rename_i hitem
    have := List.sizeOf_lt_of_mem hitem
    simp only [Value.list.sizeOf_spec]
    omega
  · simp only [Prod.mk.sizeOf_spec] at this
    simp only [Value.closure.sizeOf_spec]
    omega

/-- How the values and the variables of two evaluations correspond. -/
structure Simulation where
  /-- The names that code and data may mention. -/
  spoken : String → Prop
  /-- Whether a list value may be empty. -/
  empties : Prop
  /-- Whether a loop may be given up for taking too many rounds. -/
  endless : Prop
  /-- Why the first evaluation may end while the second one goes on. -/
  cuts : Halt → Prop
  values : Value → Value → Prop
  frames : Bindings Value → Bindings Value → Prop
  globals : Bindings Value → Bindings Value → Prop

/-- Values of one shape with corresponding parts. -/
inductive Value.Lift (S : Simulation) : Value → Value → Prop
  | nil : Lift S .nil .nil
  | truth : Lift S .truth .truth
  | number (value : Float) : Lift S (.number value) (.number value)
  | string (text : String) : Lift S (.string text) (.string text)
  | symbol {name : String} : S.spoken name → Lift S (.symbol name) (.symbol name)
  | list {items others : List Value} : (items = [] → S.empties) →
      List.Forall₂ S.values items others → Lift S (.list items) (.list others)
  | closure {identity : Nat} {params : List String} {body : List Form}
      {captured other : Bindings Value} : (∀ param ∈ params, S.spoken param) →
      (∀ form ∈ body, form.Speaks S.spoken) → S.frames captured other →
      Lift S (.closure identity params body captured) (.closure identity params body other)
  | entity (id : EntityId) : Lift S (.entity id) (.entity id)
  | selection (ids : List EntityId) : Lift S (.selection ids) (.selection ids)

/-- Errors with the same cause, in which corresponding values are named. -/
inductive Error.Lift (R : Value → Value → Prop) : Error → Error → Prop
  | refl (error : Error) : Lift R error error
  | expected (what : String) {value other : Value} : R value other →
      Lift R (.type (.expected what value)) (.type (.expected what other))
  | operand (operator what : String) {value other : Value} : R value other →
      Lift R (.type (.operand operator what value)) (.type (.operand operator what other))
  | group (code : Int) (what : String) {value other : Value} : R value other →
      Lift R (.type (.group code what value)) (.type (.group code what other))
  | notFunction {value other : Value} : R value other →
      Lift R (.type (.notFunction value)) (.type (.notFunction other))
  | incomparable {first second first' second' : Value} : R first first' → R second second' →
      Lift R (.type (.incomparable first second)) (.type (.incomparable first' second'))
  | noEntityName {value other : Value} : R value other →
      Lift R (.type (.noEntityName value)) (.type (.noEntityName other))
  | noParameterList {value other : Value} : R value other →
      Lift R (.syntactic (.noParameterList value)) (.syntactic (.noParameterList other))

theorem Error.Lift.named {R : Value → Value → Prop} {error other : Error} (h : Lift R error other)
    (operator : String) : Lift R (error.named operator) (other.named operator) := by
  cases h with
  | refl => exact .refl _
  | expected what h => exact .expected what h
  | operand name what h => exact .operand name what h
  | group code what h => exact .group code what h
  | notFunction h => exact .notFunction h
  | incomparable h h' => exact .incomparable h h'
  | noEntityName h => exact .noEntityName h
  | noParameterList h => exact .noParameterList h

theorem Error.Lift.eq {R : Value → Value → Prop} {error other : Error} (h : Lift R error other)
    (hR : ∀ value other, R value other → value = other) : error = other := by
  cases h with
  | refl => rfl
  | expected what h | operand name what h | group code what h => rw [hR _ _ h]
  | notFunction h | noEntityName h | noParameterList h => rw [hR _ _ h]
  | incomparable h h' => rw [hR _ _ h, hR _ _ h']

namespace Simulation

section Lists

variable {α β : Type} {R Q : α → β → Prop} {items : List α} {others : List β}

theorem forall₂_of_mem (h : List.Forall₂ R items others)
    (himp : ∀ item ∈ items, ∀ other, R item other → Q item other) :
    List.Forall₂ Q items others := by
  induction h with
  | nil => exact .nil
  | cons hfirst hrest ih =>
      exact .cons (himp _ (by simp) _ hfirst) (ih fun item hitem => himp item (by simp [hitem]))

theorem getElem?_rel (h : List.Forall₂ R items others) (index : Nat) :
    Option.Rel R items[index]? others[index]? := by
  induction h generalizing index with
  | nil => exact .none
  | cons hfirst hrest ih =>
      cases index with
      | zero => exact .some hfirst
      | succ index => exact ih index

variable {test : α → Bool} {test' : β → Bool}

theorem find?_rel (h : List.Forall₂ R items others)
    (htest : ∀ item other, R item other → test item = test' other) :
    Option.Rel R (items.find? test) (others.find? test') := by
  induction h with
  | nil => exact .none
  | cons hfirst hrest ih =>
      rw [List.find?_cons, List.find?_cons, htest _ _ hfirst]
      split
      · exact .some hfirst
      · exact ih

theorem findIdx?_eq (h : List.Forall₂ R items others)
    (htest : ∀ item other, R item other → test item = test' other) :
    items.findIdx? test = others.findIdx? test' := by
  induction h with
  | nil => rfl
  | cons hfirst hrest ih => rw [List.findIdx?_cons, List.findIdx?_cons, htest _ _ hfirst, ih]

end Lists

/-- The primitive steps of an evaluation respect the correspondence. -/
structure Lawful (S : Simulation) : Prop where
  lift_iff : ∀ {value other}, S.values value other ↔ value.Lift S other
  binding : ∀ {frame frame' globals globals' name}, S.frames frame frame' →
    S.globals globals globals' → S.spoken name →
      Option.Rel S.values (Bindings.get? frame name <|> Bindings.get? globals name)
        (Bindings.get? frame' name <|> Bindings.get? globals' name)
  frames_put : ∀ {frame frame' name value value'}, S.spoken name → S.values value value' →
    S.frames frame frame' → S.frames (frame.put name value) (frame'.put name value')
  /-- Constants are never assigned. -/
  globals_put : ∀ {globals globals' name value value'}, S.spoken name →
    State.constant? name = none → S.values value value' → S.globals globals globals' →
      S.globals (globals.put name value) (globals'.put name value')
  snapshot : ∀ {frame frame' globals globals'}, S.frames frame frame' →
    S.globals globals globals' → S.frames (frame.overlay globals) (frame'.overlay globals')
  spoken_truth : S.spoken "T"
  spoken_nil : S.spoken "NIL"
  spoken_typeName : ∀ value : Value, S.spoken value.typeName
  spoken_read : S.spoken "READ" → ∀ {text forms},
    Reader.readText Reader.defaultLimit text = .ok forms → ∀ form ∈ forms, form.Speaks S.spoken

namespace Lawful

variable {S : Simulation} (hS : S.Lawful)

include hS

theorem nil : S.values .nil .nil := hS.lift_iff.mpr .nil

theorem truth : S.values .truth .truth := hS.lift_iff.mpr .truth

theorem number (value : Float) : S.values (.number value) (.number value) :=
  hS.lift_iff.mpr (.number value)

theorem string (text : String) : S.values (.string text) (.string text) :=
  hS.lift_iff.mpr (.string text)

theorem entity (id : EntityId) : S.values (.entity id) (.entity id) := hS.lift_iff.mpr (.entity id)

theorem selection (ids : List EntityId) : S.values (.selection ids) (.selection ids) :=
  hS.lift_iff.mpr (.selection ids)

theorem symbol {name : String} (h : S.spoken name) : S.values (.symbol name) (.symbol name) :=
  hS.lift_iff.mpr (.symbol h)

theorem cons {value other : Value} {items others : List Value} (h : S.values value other)
    (hitems : List.Forall₂ S.values items others) :
    S.values (.list (value :: items)) (.list (other :: others)) :=
  hS.lift_iff.mpr (.list (by simp) (.cons h hitems))

theorem ofList {items others : List Value} (h : List.Forall₂ S.values items others) :
    S.values (.ofList items) (.ofList others) := by
  cases h with
  | nil => exact hS.nil
  | cons h hitems => exact hS.cons h hitems

theorem ofBool (b : Bool) : S.values (.ofBool b) (.ofBool b) := by
  cases b
  · exact hS.nil
  · exact hS.truth

theorem ofOption {found other : Option Value} (h : Option.Rel S.values found other) :
    S.values (.ofOption found) (.ofOption other) := by
  cases h with
  | none => exact hS.nil
  | some h => exact h

theorem ofForm {form : Form} (h : form.Speaks S.spoken) :
    S.values (.ofForm form) (.ofForm form) := by
  induction form using Form.induction with
  | number value => exact hS.number value
  | string text => exact hS.string text
  | symbol name =>
      simp only [Value.ofForm]
      split
      · exact hS.nil
      · exact hS.symbol (Form.speaks_symbol_iff.mp h)
  | list items ih =>
      rw [Value.ofForm]
      apply hS.ofList
      have hitems := Form.speaks_list_iff.mp h
      clear h
      induction items with
      | nil => exact .nil
      | cons item rest ihrest =>
          rw [Value.ofForms]
          refine .cons (ih item (by simp) (hitems item (by simp))) ?_
          exact ihrest (fun other hother => ih other (by simp [hother]))
            fun other hother => hitems other (by simp [hother])

variable {value other : Value} (h : S.values value other)

include h

theorem items_cases :
    (value.items? = none ∧ other.items? = none) ∨
      ∃ items others, value.items? = some items ∧ other.items? = some others ∧
        List.Forall₂ S.values items others := by
  cases hS.lift_iff.mp h with
  | nil => exact .inr ⟨[], [], rfl, rfl, .nil⟩
  | list _ hitems => exact .inr ⟨_, _, rfl, rfl, hitems⟩
  | _ => exact .inl ⟨rfl, rfl⟩

theorem isNil_eq : value.isNil = other.isNil := by
  cases hS.lift_iff.mp h with
  | list _ hitems => cases hitems <;> rfl
  | _ => rfl

theorem isTruthy_eq : value.isTruthy = other.isTruthy := by
  rw [Value.isTruthy, Value.isTruthy, hS.isNil_eq h]

theorem isSome_items_eq : value.items?.isSome = other.items?.isSome := by
  cases hS.lift_iff.mp h <;> rfl

theorem number?_eq : value.number? = other.number? := by
  cases hS.lift_iff.mp h <;> rfl

theorem string?_eq : value.string? = other.string? := by
  cases hS.lift_iff.mp h <;> rfl

theorem entity?_eq : value.entity? = other.entity? := by
  cases hS.lift_iff.mp h <;> rfl

theorem selection?_eq : value.selection? = other.selection? := by
  cases hS.lift_iff.mp h <;> rfl

theorem typeName_eq : value.typeName = other.typeName := by
  cases hS.lift_iff.mp h <;> rfl

theorem point?_eq : value.point? = other.point? := by
  cases hS.lift_iff.mp h with
  | list _ hitems =>
      rcases hitems with _ | ⟨hx, _ | ⟨hy, _ | ⟨hz, _ | ⟨_, _⟩⟩⟩⟩
      · rfl
      · simp [Value.point?]
      · cases hS.lift_iff.mp hx with
        | number x => cases hS.lift_iff.mp hy <;> rfl
        | _ => simp [Value.point?]
      · cases hS.lift_iff.mp hx with
        | number x =>
            cases hS.lift_iff.mp hy with
            | number y => cases hS.lift_iff.mp hz <;> rfl
            | _ => simp [Value.point?]
        | _ => simp [Value.point?]
      · simp [Value.point?]
  | _ => rfl

omit hS h in
theorem spaced_eq {items others : List Value}
    (h : List.Forall₂ (fun value other => value.chars = other.chars) items others) :
    Value.spaced items = Value.spaced others := by
  induction h with
  | nil => rfl
  | cons hfirst hrest ih =>
      cases hrest with
      | nil => rw [Value.spaced, Value.spaced, hfirst]
      | cons _ _ => rw [Value.spaced, Value.spaced, hfirst, ih]

theorem chars_eq : value.chars = other.chars := by
  induction value using Value.induction generalizing other with
  | list items ih =>
      cases hS.lift_iff.mp h with
      | list _ hitems =>
          have hsame := spaced_eq (forall₂_of_mem hitems fun item hitem _ => ih item hitem)
          exact congrArg (fun inner => '(' :: (inner ++ [')'])) hsame
  | _ =>
      cases hS.lift_iff.mp h
      rfl

theorem text_eq : value.text = other.text := by
  rw [Value.text, Value.text, hS.chars_eq h]

theorem displayText_eq : value.displayText = other.displayText := by
  cases hS.lift_iff.mp h with
  | string text => rfl
  | _ => exact hS.text_eq h

omit hS h in
theorem forms?_eq {items others : List Value}
    (h : List.Forall₂ (fun value other => value.form? = other.form? ∧
      ∀ form ∈ value.form?, form.Speaks S.spoken) items others) :
    Value.forms? items = Value.forms? others ∧
      ∀ forms ∈ Value.forms? items, ∀ form ∈ forms, form.Speaks S.spoken := by
  induction h with
  | nil => simp [Value.forms?]
  | @cons item item' rest rest' hitem hrest ih =>
      obtain ⟨hform, hspeaks⟩ := hitem
      obtain ⟨hforms, hall⟩ := ih
      rw [Value.forms?, Value.forms?, ← hform, ← hforms]
      refine ⟨rfl, ?_⟩
      intro forms hmem
      split at hmem
      · rename_i first others hfirst hothers
        cases hmem
        intro form hform
        rcases List.mem_cons.mp hform with rfl | hform
        · exact hspeaks _ hfirst
        · exact hall _ hothers form hform
      · cases hmem

/-- What is read as code is the same, and speaks only names that may be spoken. -/
theorem form?_eq :
    value.form? = other.form? ∧ ∀ form ∈ value.form?, form.Speaks S.spoken := by
  induction value using Value.induction generalizing other with
  | list items ih =>
      cases hS.lift_iff.mp h with
      | list _ hitems =>
          obtain ⟨hsame, hall⟩ :=
            forms?_eq (forall₂_of_mem hitems fun item hitem _ => ih item hitem)
          rw [Value.form?, Value.form?, ← hsame]
          refine ⟨rfl, ?_⟩
          intro form hform
          obtain ⟨forms, hforms, rfl⟩ := Option.map_eq_some_iff.mp hform
          exact Form.speaks_list_iff.mpr (hall forms hforms)
  | _ =>
      have hnil := hS.spoken_nil
      have htruth := hS.spoken_truth
      cases hS.lift_iff.mp h
      simp_all [Value.form?, Form.Speaks, Form.symbols]

omit hS h in
theorem beqItems_eq {items others keys keys' : List Value}
    (h : List.Forall₂ (fun value other => ∀ key key', S.values key key' →
      value.beq key = other.beq key') items others) (hkeys : List.Forall₂ S.values keys keys') :
    Value.beqItems items keys = Value.beqItems others keys' := by
  induction h generalizing keys keys' with
  | nil => cases hkeys <;> rfl
  | cons hfirst hrest ih =>
      cases hkeys with
      | nil => rfl
      | cons hkey hkeys => rw [Value.beqItems, Value.beqItems, hfirst _ _ hkey, ih hkeys]

theorem beq_eq {key key' : Value} (hkey : S.values key key') :
    (value == key) = (other == key') := by
  change value.beq key = other.beq key'
  induction value using Value.induction generalizing other key key' with
  | list items ih =>
      cases hS.lift_iff.mp h with
      | list _ hitems =>
          cases hS.lift_iff.mp hkey with
          | nil => cases hitems <;> rfl
          | list _ hkeys =>
              rw [Value.beq, Value.beq]
              exact beqItems_eq (forall₂_of_mem hitems fun item hitem other h key key' =>
                ih item hitem h) hkeys
          | _ => rfl
  | nil =>
      cases hS.lift_iff.mp h
      cases hS.lift_iff.mp hkey with
      | list _ hkeys => cases hkeys <;> rfl
      | _ => rfl
  | _ =>
      cases hS.lift_iff.mp h
      cases hS.lift_iff.mp hkey <;> rfl

end Lawful

end Simulation

end DraftLisp

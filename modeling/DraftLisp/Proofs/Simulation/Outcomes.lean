import DraftLisp.Proofs.Simulation.Values

namespace DraftLisp

open Builtin

/-- Halts for the same reason; a loop is given up only where that is allowed. -/
inductive Halt.Lift (S : Simulation) : Halt → Halt → Prop
  | error {error other : Error} : error.Lift S.values other → Lift S (.error error) (.error other)
  | overlong : Lift S .overlong .overlong
  | endless : S.endless → Lift S .endless .endless

namespace Simulation

variable {S : Simulation} {α β γ δ : Type} {R : α → β → Prop} {Q : γ → δ → Prop}

/-- Outcomes with corresponding results, or with errors of the same cause. -/
inductive Outcomes (S : Simulation) (R : α → β → Prop) : Except Error α → Except Error β → Prop
  | ok {result : α} {other : β} : R result other → Outcomes S R (.ok result) (.ok other)
  | error {error other : Error} : error.Lift S.values other →
      Outcomes S R (.error error) (.error other)

inductive Endings (S : Simulation) (R : α → β → Prop) : Except Halt α → Except Halt β → Prop
  | ok {result : α} {other : β} : R result other → Endings S R (.ok result) (.ok other)
  | halt {halt other : Halt} : halt.Lift S other → Endings S R (.error halt) (.error other)

theorem Outcomes.bind {first : Except Error α} {second : Except Error β} {next : α → Except Error γ}
    {next' : β → Except Error δ} (h : S.Outcomes R first second)
    (hnext : ∀ result other, R result other → S.Outcomes Q (next result) (next' other)) :
    S.Outcomes Q (first >>= next) (second >>= next') := by
  cases h with
  | ok h => exact hnext _ _ h
  | error h => exact .error h

theorem Outcomes.of_self {R : α → α → Prop} {outcome : Except Error α}
    (h : ∀ result, outcome = .ok result → R result result) : S.Outcomes R outcome outcome := by
  cases outcome with
  | ok result => exact .ok (h result rfl)
  | error error => exact .error (.refl error)

theorem Outcomes.halting {first : Except Error α} {second : Except Error β}
    (h : S.Outcomes R first second) : S.Endings R (halting first) (halting second) := by
  cases h with
  | ok h => exact .ok h
  | error h => exact .halt (.error h)

theorem Endings.bind {first : Except Halt α} {second : Except Halt β} {next : α → Except Halt γ}
    {next' : β → Except Halt δ} (h : S.Endings R first second)
    (hnext : ∀ result other, R result other → S.Endings Q (next result) (next' other)) :
    S.Endings Q (first >>= next) (second >>= next') := by
  cases h with
  | ok h => exact hnext _ _ h
  | halt h => exact .halt h

theorem Endings.eq {ending other : Except Halt Value} (h : S.Endings S.values ending other)
    (hvalues : ∀ value other, S.values value other → value = other) : ending = other := by
  rcases h with h | (h | _ | _)
  · rw [hvalues _ _ h]
  · rw [h.eq hvalues]
  · rfl
  · rfl

theorem Outcomes.mapM {read : α → Except Error γ} {read' : β → Except Error δ}
    (hread : ∀ item other, R item other → S.Outcomes Q (read item) (read' other)) {items : List α}
    {others : List β} (h : List.Forall₂ R items others) :
    S.Outcomes (List.Forall₂ Q) (items.mapM read) (others.mapM read') := by
  induction h with
  | nil => exact .ok .nil
  | cons hfirst hrest ih =>
      rw [List.mapM_cons, List.mapM_cons]
      refine (hread _ _ hfirst).bind fun result result' hresult => ?_
      exact ih.bind fun results results' hresults => .ok (.cons hresult hresults)

/-- A reader gives corresponding results for corresponding values. -/
def Reads (S : Simulation) (R : α → α → Prop) (read : Reader α) : Prop :=
  ∀ value other, S.values value other → S.Outcomes R (read value) (read other)

def ReadsRest (S : Simulation) (R : α → α → Prop) (read : RestReader α) : Prop :=
  ∀ values others, List.Forall₂ S.values values others → S.Outcomes R (read values) (read others)

/-- An operator on values gives corresponding results for corresponding operands. -/
def Respects (S : Simulation) (run : List Value → Except Error Value) : Prop :=
  S.ReadsRest S.values run

section Readers

theorem reads_anyValue : S.Reads S.values anyValue := fun _ _ h => .ok h

theorem reads_anyValues : S.ReadsRest (List.Forall₂ S.values) anyValues := fun _ _ h => .ok h

theorem outcomes_orExpected (what : String) {value other : Value} {found found' : Option α}
    (h : S.values value other) (hfound : found = found') :
    S.Outcomes Eq (Value.orExpected what value found) (Value.orExpected what other found') := by
  subst hfound
  cases found with
  | some result => exact .ok rfl
  | none => exact .error (.expected what h)

variable (hS : S.Lawful)

include hS

theorem Lawful.reads_list : S.Reads (List.Forall₂ S.values) Value.expectList := by
  intro value other h
  rcases hS.items_cases h with ⟨hnone, hnone'⟩ | ⟨items, others, hitems, hothers, hrel⟩
  · rw [Value.expectList, Value.expectList, hnone, hnone']
    exact .error (.expected "list" h)
  · rw [Value.expectList, Value.expectList, hitems, hothers]
    exact .ok hrel

theorem Lawful.reads_number : S.Reads Eq Value.expectNumber :=
  fun _ _ h => outcomes_orExpected _ h (hS.number?_eq h)

theorem Lawful.reads_string : S.Reads Eq Value.expectString :=
  fun _ _ h => outcomes_orExpected _ h (hS.string?_eq h)

theorem Lawful.reads_point : S.Reads Eq Value.expectPoint :=
  fun _ _ h => outcomes_orExpected _ h (hS.point?_eq h)

theorem Lawful.reads_entity : S.Reads Eq Value.expectEntity :=
  fun _ _ h => outcomes_orExpected _ h (hS.entity?_eq h)

theorem Lawful.reads_selection : S.Reads Eq Value.expectSelection :=
  fun _ _ h => outcomes_orExpected _ h (hS.selection?_eq h)

theorem Lawful.reads_numbers : S.ReadsRest Eq numbers := by
  intro values others h
  have hread := Outcomes.mapM hS.reads_number h
  rwa [List.forall₂_eq_eq_eq] at hread

theorem Lawful.reads_strings : S.ReadsRest Eq strings := by
  intro values others h
  have hread := Outcomes.mapM hS.reads_string h
  rwa [List.forall₂_eq_eq_eq] at hread

end Readers

section Operands

variable {A : α → α → Prop} {B : β → β → Prop} {C : γ → γ → Prop}

theorem outcomes_miscounted {operands others : List Value}
    (h : List.Forall₂ S.values operands others) (expected : Nat) :
    S.Outcomes S.values (miscounted expected operands) (miscounted expected others) := by
  rw [miscounted, miscounted, h.length_eq]
  exact .error (.refl _)

theorem respects_unary {first : Reader α} {run : α → Except Error Value} (hfirst : S.Reads A first)
    (hrun : ∀ a a', A a a' → S.Outcomes S.values (run a) (run a')) :
    S.Respects (unary first run) := by
  rintro operands others (_ | ⟨ha, _ | ⟨hb, hrest⟩⟩)
  · exact outcomes_miscounted .nil 1
  · exact (hfirst _ _ ha).bind hrun
  · exact outcomes_miscounted (.cons ha (.cons hb hrest)) 1

theorem respects_binary {first : Reader α} {second : Reader β} {run : α → β → Except Error Value}
    (hfirst : S.Reads A first) (hsecond : S.Reads B second)
    (hrun : ∀ a a', A a a' → ∀ b b', B b b' → S.Outcomes S.values (run a b) (run a' b')) :
    S.Respects (binary first second run) := by
  rintro operands others (_ | ⟨ha, _ | ⟨hb, _ | ⟨hc, hrest⟩⟩⟩)
  · exact outcomes_miscounted .nil 2
  · exact outcomes_miscounted (.cons ha .nil) 2
  · refine (hfirst _ _ ha).bind fun a a' ha => ?_
    exact (hsecond _ _ hb).bind fun b b' hb => hrun a a' ha b b' hb
  · exact outcomes_miscounted (.cons ha (.cons hb (.cons hc hrest))) 2

theorem respects_ternary {first : Reader α} {second : Reader β} {third : Reader γ}
    {run : α → β → γ → Except Error Value} (hfirst : S.Reads A first) (hsecond : S.Reads B second)
    (hthird : S.Reads C third)
    (hrun : ∀ a a', A a a' → ∀ b b', B b b' → ∀ c c', C c c' →
      S.Outcomes S.values (run a b c) (run a' b' c')) :
    S.Respects (ternary first second third run) := by
  rintro operands others (_ | ⟨ha, _ | ⟨hb, _ | ⟨hc, _ | ⟨hd, hrest⟩⟩⟩⟩)
  · exact outcomes_miscounted .nil 3
  · exact outcomes_miscounted (.cons ha .nil) 3
  · exact outcomes_miscounted (.cons ha (.cons hb .nil)) 3
  · refine (hfirst _ _ ha).bind fun a a' ha => ?_
    refine (hsecond _ _ hb).bind fun b b' hb => ?_
    exact (hthird _ _ hc).bind fun c c' hc => hrun a a' ha b b' hb c c' hc
  · exact outcomes_miscounted (.cons ha (.cons hb (.cons hc (.cons hd hrest)))) 3

theorem respects_variadic {rest : RestReader α} {run : α → Except Error Value}
    (hrest : S.ReadsRest A rest) (hrun : ∀ a a', A a a' → S.Outcomes S.values (run a) (run a')) :
    S.Respects (variadic rest run) :=
  fun _ _ h => (hrest _ _ h).bind hrun

theorem readsRest_unaryRest {R : δ → δ → Prop} {first : Reader α} {rest : RestReader β}
    {run : α → β → Except Error δ} (hfirst : S.Reads A first) (hrest : S.ReadsRest B rest)
    (hrun : ∀ a a', A a a' → ∀ b b', B b b' → S.Outcomes R (run a b) (run a' b')) :
    S.ReadsRest R (unaryRest first rest run) := by
  rintro operands others (_ | ⟨ha, hothers⟩)
  · exact .error (.refl _)
  · refine (hfirst _ _ ha).bind fun a a' ha => ?_
    exact (hrest _ _ hothers).bind fun b b' hb => hrun a a' ha b b' hb

theorem respects_binaryRest {first : Reader α} {second : Reader β} {rest : RestReader γ}
    {run : α → β → γ → Except Error Value} (hfirst : S.Reads A first) (hsecond : S.Reads B second)
    (hrest : S.ReadsRest C rest)
    (hrun : ∀ a a', A a a' → ∀ b b', B b b' → ∀ c c', C c c' →
      S.Outcomes S.values (run a b c) (run a' b' c')) :
    S.Respects (binaryRest first second rest run) := by
  rintro operands others (_ | ⟨ha, _ | ⟨hb, hothers⟩⟩)
  · exact outcomes_miscounted .nil 2
  · exact outcomes_miscounted (.cons ha .nil) 2
  · refine (hfirst _ _ ha).bind fun a a' ha => ?_
    refine (hsecond _ _ hb).bind fun b b' hb => ?_
    exact (hrest _ _ hothers).bind fun c c' hc => hrun a a' ha b b' hb c c' hc

end Operands

/-- What holds of equal arguments. -/
theorem of_same {P : α → α → Prop} (h : ∀ a, P a a) : ∀ a a', a = a' → P a a' := by
  rintro a _ rfl
  exact h a

/-- Changes with corresponding outcomes that leave the same drawing. -/
def Edits (S : Simulation) (R : α → β → Prop) (first : Edit α) (second : Edit β) : Prop :=
  ∀ drawing, S.Outcomes R (first drawing).1 (second drawing).1 ∧
    (first drawing).2 = (second drawing).2

/-- Corresponding values, or the same request. -/
inductive Demands (S : Simulation) : Demand → Demand → Prop
  | answered {value other : Value} : S.values value other →
      Demands S (.answered value) (.answered other)
  | asked (request : Request) : Demands S (.asked request) (.asked request)

/-- An action treats corresponding operands alike. -/
def Acts (S : Simulation) : Action → Prop
  | .pure run => ∀ operands others, List.Forall₂ S.values operands others →
      S.Endings S.values (run operands) (run others)
  | .edit run => ∀ operands others, List.Forall₂ S.values operands others →
      S.Edits S.values (run operands) (run others)
  | .input ask => ∀ operands others drawing, List.Forall₂ S.values operands others →
      S.Outcomes S.Demands (ask operands drawing) (ask others drawing)
  | .control _ => True

theorem acts_function {name : String} {arity : Arity} {run : List Value → Except Error Value}
    (h : S.Respects run) : S.Acts (function name arity run).action :=
  fun _ _ hoperands => (h _ _ hoperands).halting

section Results

variable (hS : S.Lawful)

include hS

theorem Lawful.outcomes_number (x : Float) :
    S.Outcomes S.values (Builtin.number x) (Builtin.number x) :=
  .ok (hS.number x)

theorem Lawful.outcomes_string (text : String) :
    S.Outcomes S.values (Builtin.string text) (Builtin.string text) :=
  .ok (hS.string text)

theorem Lawful.outcomes_flag {b b' : Bool} (h : b = b') :
    S.Outcomes S.values (flag b) (flag b') := by
  subst h
  exact .ok (hS.ofBool b)

theorem Lawful.outcomes_count {n n' : Nat} (h : n = n') :
    S.Outcomes S.values (count n) (count n') := by
  subst h
  exact .ok (hS.number _)

end Results

end Simulation

end DraftLisp

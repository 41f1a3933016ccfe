import DraftLisp.Proofs.Execution.Responses
import DraftLisp.Proofs.Simulation.Evaluation
import DraftLisp.Proofs.Simulation.Likeness

namespace DraftLisp

/-- From a value one reaches the elements of a list and the variables that a function has kept. -/
inductive Value.Reaches : Value → Value → Prop
  | refl (value : Value) : Reaches value value
  | item {items : List Value} {item target : Value} : item ∈ items → Reaches item target →
      Reaches (.list items) target
  | kept {identity : Nat} {params : List String} {body : List Form} {captured : Bindings Value}
      {name : String} {value target : Value} : captured.get? name = some value →
      Reaches value target → Reaches (.closure identity params body captured) target

/-- All functions that can be reached from a value have kept values of their own for the names. -/
def Value.Shielded (names : String → Prop) (value : Value) : Prop :=
  ∀ {identity params body captured}, value.Reaches (.closure identity params body captured) →
    ∀ name, names name → (Bindings.get? captured name).isSome

theorem Value.shielded_string (names : String → Prop) (text : String) :
    (Value.string text).Shielded names := by
  rintro _ _ _ _ ⟨⟩

theorem Value.shielded_closure {names : String → Prop} {identity : Nat} {params : List String}
    {body : List Form} {captured : Bindings Value}
    (hbound : ∀ name, names name → (captured.get? name).isSome)
    (hkept : ∀ name value, captured.get? name = some value → value.Shielded names) :
    (Value.closure identity params body captured).Shielded names := by
  rintro _ _ _ _ (_ | _ | ⟨hvalue, hreach⟩)
  · exact hbound
  · exact hkept _ _ hvalue hreach

/-- The frame binds the names, and all functions in reach have values of their own for them. The
global values of the names are out of reach. -/
structure State.Shielded (names : String → Prop) (state : State) : Prop where
  bound : ∀ name, names name → (state.frame.get? name).isSome
  frame : ∀ name value, state.frame.get? name = some value → value.Shielded names
  globals : ∀ name value, ¬names name → state.globals.get? name = some value →
    value.Shielded names

/-- Values that are the same, where every function has kept the names. -/
def isolating (names : String → Prop) : Likeness := ⟨fun _ => True, names, True, True⟩

namespace Isolation

variable {names : String → Prop}

theorem lawful_isolating : (isolating names).simulation.Lawful :=
  Likeness.lawful trivial trivial (fun _ => trivial) fun _ _ _ _ _ _ _ _ => trivial

theorem alike_of_shielded {value : Value} (h : value.Shielded names) :
    Value.Alike (isolating names) value value := by
  induction value using Value.induction with
  | nil => exact .nil
  | truth => exact .truth
  | number x => exact .number x
  | string text => exact .string text
  | symbol name => exact .symbol trivial
  | list items ih =>
      refine .list (fun _ => trivial) (List.forall₂_same.mpr fun item hitem => ?_)
      exact ih item hitem fun hreach => h (.item hitem hreach)
  | closure identity params body captured ih =>
      refine .closure (fun _ _ => trivial) (fun _ _ _ _ => trivial) (h (.refl _)) fun name => ?_
      cases hkept : Bindings.get? captured name with
      | none => exact .none
      | some value => exact .some (ih name value hkept fun hreach => h (.kept hkept hreach))
  | entity id => exact .entity id
  | selection ids => exact .selection ids

theorem get?_rel_of_shielded {bindings : Bindings Value} {name : String}
    (h : ∀ value, bindings.get? name = some value → value.Shielded names) :
    Option.Rel (Value.Alike (isolating names)) (bindings.get? name) (bindings.get? name) := by
  cases hvalue : bindings.get? name with
  | none => exact .none
  | some value => exact .some (alike_of_shielded (h value hvalue))

theorem states_of_shielded {state : State} (h : state.Shielded names) {globals : Bindings Value}
    (hglobals : ∀ name, ¬names name → globals.get? name = state.globals.get? name) :
    (isolating names).simulation.States state { state with globals } where
  frame := ⟨h.bound, fun name => get?_rel_of_shielded (h.frame name)⟩
  globals name hname := by
    rw [hglobals name hname]
    exact get?_rel_of_shielded fun value => h.globals name value hname
  functions := rfl
  speaks _ := ⟨trivial, trivial, fun _ _ => trivial, fun _ _ _ _ => trivial⟩
  drawing := rfl
  nextClosure := rfl

end Isolation

open Isolation in
/-- Where the names are shielded, their global values make no difference: whatever the user
responds, both evaluations ask the same, change the drawing alike, define the same functions and
end with the same value or error, and their globals agree on all other names. -/
theorem standings_eval_of_shielded (names : String → Prop) (rounds limit room level : Nat)
    (form : Form) {state : State} (h : state.Shielded names) {globals : Bindings Value}
    (hglobals : ∀ name, ¬names name → globals.get? name = state.globals.get? name)
    (responses : List Response) :
    (isolating names).simulation.Standings (Value.Alike (isolating names))
      ((eval rounds limit room level form state).answered responses).standing
      ((eval rounds limit room level form { state with globals }).answered responses).standing := by
  have hsimulates : (isolating names).simulation.Simulates (Value.Alike (isolating names))
      (eval rounds limit room level form) (eval rounds limit room level form) :=
    lawful_isolating.simulates_eval (fun _ => ⟨rfl, trivial⟩) (Nat.le_refl room)
      (.inl ⟨rfl, rfl⟩) level form fun _ _ => trivial
  exact (lawful_isolating.matches_answered
    (hsimulates _ _ (states_of_shielded h hglobals)) responses).standing

/-- A frame that binds `X`, and a function in reach that has kept a value of its own for it. -/
def shieldedX : State :=
  { Session.empty with
    frame := [("X", .string "inner")]
    globals := [("X", .string "outer"),
      ("F", .closure 0 [] [.symbol "X"] [("X", .string "kept")])] }

theorem shielded_shieldedX : shieldedX.Shielded (· = "X") where
  bound := by
    rintro name rfl
    rfl
  frame := by
    intro name value hvalue
    rw [shieldedX, Bindings.get?_cons] at hvalue
    split at hvalue
    · cases hvalue
      exact Value.shielded_string _ _
    · cases hvalue
  globals := by
    intro name value hname hvalue
    rw [shieldedX, Bindings.get?_cons, if_neg hname, Bindings.get?_cons] at hvalue
    split at hvalue
    · cases hvalue
      refine Value.shielded_closure (fun other hother => ?_) fun other kept hkept => ?_
      · subst hother
        rfl
      · rw [Bindings.get?_cons] at hkept
        split at hkept
        · cases hkept
          exact Value.shielded_string _ _
        · cases hkept
    · cases hvalue

/-- A function that is made in the frame keeps `X` from there, wherever `X` stands among the
globals. -/
theorem standings_eval_of_shielded_lambda :
    shieldedX.Shielded (· = "X") ∧
      (isolating (· = "X")).simulation.Standings (Value.Alike (isolating (· = "X")))
        ((eval 1 2 2 0 (.list [.symbol "LAMBDA", .list [], .symbol "X"]) shieldedX).answered
          []).standing
        ((eval 1 2 2 0 (.list [.symbol "LAMBDA", .list [], .symbol "X"])
          { shieldedX with globals := shieldedX.globals.tail }).answered []).standing := by
  refine ⟨shielded_shieldedX, standings_eval_of_shielded _ 1 2 2 0 _ shielded_shieldedX ?_ []⟩
  intro name hname
  rw [shieldedX, Bindings.get?_cons, if_neg hname]
  rfl

end DraftLisp

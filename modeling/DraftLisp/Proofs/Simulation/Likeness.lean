import DraftLisp.Proofs.Simulation.Values

/-!
Two values are alike when they are the same but for the order in which functions in them keep their
variables. Frames may hide names from the globals by binding them.
-/

namespace DraftLisp

/-- Bindings of the same names to related values, which bind every hidden name. -/
structure Bindings.Alike (hidden : String → Prop) (R : α → α → Prop) (first second : Bindings α) :
    Prop where
  bound : ∀ name, hidden name → (first.get? name).isSome
  related : ∀ name, Option.Rel R (first.get? name) (second.get? name)

/-- What code may speak of and what frames hide from it. -/
structure Likeness where
  spoken : String → Prop
  /-- The names that every frame binds, so that their global values are out of reach. -/
  hidden : String → Prop
  empties : Prop
  endless : Prop

inductive Value.Alike (L : Likeness) : Value → Value → Prop
  | nil : Alike L .nil .nil
  | truth : Alike L .truth .truth
  | number (value : Float) : Alike L (.number value) (.number value)
  | string (text : String) : Alike L (.string text) (.string text)
  | symbol {name : String} : L.spoken name → Alike L (.symbol name) (.symbol name)
  | list {items others : List Value} : (items = [] → L.empties) →
      List.Forall₂ (Alike L) items others → Alike L (.list items) (.list others)
  | closure {identity : Nat} {params : List String} {body : List Form}
      {captured other : Bindings Value} : (∀ param ∈ params, L.spoken param) →
      (∀ form ∈ body, form.Speaks L.spoken) →
      (∀ name, L.hidden name → (captured.get? name).isSome) →
      (∀ name, Option.Rel (Alike L) (captured.get? name) (other.get? name)) →
      Alike L (.closure identity params body captured) (.closure identity params body other)
  | entity (id : EntityId) : Alike L (.entity id) (.entity id)
  | selection (ids : List EntityId) : Alike L (.selection ids) (.selection ids)

namespace Likeness

def simulation (L : Likeness) : Simulation where
  spoken := L.spoken
  empties := L.empties
  endless := L.endless
  cuts _ := False
  values := Value.Alike L
  frames := Bindings.Alike L.hidden (Value.Alike L)
  globals first second := ∀ name, ¬L.hidden name →
    Option.Rel (Value.Alike L) (first.get? name) (second.get? name)

variable {L : Likeness}

theorem alike_iff_lift {value other : Value} :
    Value.Alike L value other ↔ value.Lift L.simulation other := by
  constructor
  · intro h
    cases h with
    | nil => exact .nil
    | truth => exact .truth
    | number x => exact .number x
    | string text => exact .string text
    | symbol hname => exact .symbol hname
    | list hempty hitems => exact .list hempty hitems
    | closure hparams hbody hbound hrelated => exact .closure hparams hbody ⟨hbound, hrelated⟩
    | entity id => exact .entity id
    | selection ids => exact .selection ids
  · intro h
    cases h with
    | nil => exact .nil
    | truth => exact .truth
    | number x => exact .number x
    | string text => exact .string text
    | symbol hname => exact .symbol hname
    | list hempty hitems => exact .list hempty hitems
    | closure hparams hbody hcaptured =>
        exact .closure hparams hbody hcaptured.bound hcaptured.related
    | entity id => exact .entity id
    | selection ids => exact .selection ids

section Bindings

variable {R : Value → Value → Prop} {hidden : String → Prop} {frame frame' : Bindings Value}
  {globals globals' : Bindings Value}

theorem get?_put_rel {bindings bindings' : Bindings Value} {name other : String}
    {value value' : Value} (h : R value value')
    (hrest : other ≠ name → Option.Rel R (bindings.get? other) (bindings'.get? other)) :
    Option.Rel R ((bindings.put name value).get? other)
      ((bindings'.put name value').get? other) := by
  rw [Bindings.get?_put, Bindings.get?_put]
  split
  · exact .some h
  · rename_i hne
    exact hrest hne

theorem alike_put (h : frame.Alike hidden R frame') {name : String} {value value' : Value}
    (hvalue : R value value') : (frame.put name value).Alike hidden R (frame'.put name value') where
  bound other hother := by
    rw [Bindings.get?_put]
    split
    · rfl
    · exact h.bound other hother
  related other := get?_put_rel hvalue fun _ => h.related other

/-- What a frame binds hides the global value; so only globals that are not hidden matter. -/
theorem binding_rel (h : frame.Alike hidden R frame')
    (hglobals : ∀ name, ¬hidden name → Option.Rel R (globals.get? name) (globals'.get? name))
    (name : String) :
    Option.Rel R (frame.get? name <|> globals.get? name)
      (frame'.get? name <|> globals'.get? name) := by
  have hbound := h.bound name
  have hrelated := h.related name
  revert hbound hrelated
  generalize frame.get? name = found
  generalize frame'.get? name = found'
  rintro hbound (hvalue | _)
  · exact .some hvalue
  · exact hglobals name fun hname => by simpa using hbound hname

theorem alike_overlay (h : frame.Alike hidden R frame')
    (hglobals : ∀ name, ¬hidden name → Option.Rel R (globals.get? name) (globals'.get? name)) :
    (frame.overlay globals).Alike hidden R (frame'.overlay globals') where
  bound name hname := by
    obtain ⟨value, hvalue⟩ := Option.isSome_iff_exists.mp (h.bound name hname)
    rw [Bindings.get?_overlay, hvalue]
    rfl
  related name := by
    rw [Bindings.get?_overlay, Bindings.get?_overlay]
    exact binding_rel h hglobals name

end Bindings

theorem lawful (htruth : L.spoken "T") (hnil : L.spoken "NIL")
    (htypeName : ∀ value : Value, L.spoken value.typeName)
    (hread : L.spoken "READ" → ∀ {text forms},
      Reader.readText Reader.defaultLimit text = .ok forms → ∀ form ∈ forms, form.Speaks L.spoken) :
    L.simulation.Lawful where
  lift_iff := alike_iff_lift
  binding hframe hglobals _ := binding_rel hframe hglobals _
  frames_put _ hvalue hframe := alike_put hframe hvalue
  globals_put _ _ hvalue hglobals other hother :=
    get?_put_rel hvalue fun _ => hglobals other hother
  snapshot hframe hglobals := alike_overlay hframe hglobals
  spoken_truth := htruth
  spoken_nil := hnil
  spoken_typeName := htypeName
  spoken_read := hread

end Likeness

end DraftLisp

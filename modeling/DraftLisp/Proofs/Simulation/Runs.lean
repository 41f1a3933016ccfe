import DraftLisp.Evaluation.Apply
import DraftLisp.Proofs.Simulation.Outcomes

namespace DraftLisp

/-- A function mentions only names that may be spoken. -/
structure Function.Speaks (spoken : String → Prop) (function : Function) : Prop where
  name : spoken function.name
  params : ∀ param ∈ function.params, spoken param
  body : ∀ form ∈ function.body, form.Speaks spoken

namespace Simulation

variable {S : Simulation} {α β γ δ : Type} {R : α → β → Prop} {Q : γ → δ → Prop}

/-- Corresponding variables, and all else the same. -/
structure States (S : Simulation) (state other : State) : Prop where
  frame : S.frames state.frame other.frame
  globals : S.globals state.globals other.globals
  functions : state.functions = other.functions
  speaks : ∀ {name function}, state.functions.get? name = some function →
    S.spoken name ∧ function.Speaks S.spoken
  drawing : state.drawing = other.drawing
  nextClosure : state.nextClosure = other.nextClosure

namespace States

variable {state other : State} (h : S.States state other)

include h

theorem setFrame {frame frame' : Bindings Value} (hframe : S.frames frame frame') :
    S.States { state with frame } { other with frame := frame' } :=
  ⟨hframe, h.globals, h.functions, h.speaks, h.drawing, h.nextClosure⟩

theorem setGlobals {globals globals' : Bindings Value} (hglobals : S.globals globals globals') :
    S.States { state with globals } { other with globals := globals' } :=
  ⟨h.frame, hglobals, h.functions, h.speaks, h.drawing, h.nextClosure⟩

theorem setDrawing (drawing : Drawing) :
    S.States { state with drawing } { other with drawing } :=
  ⟨h.frame, h.globals, h.functions, h.speaks, rfl, h.nextClosure⟩

theorem addClosure :
    S.States { state with nextClosure := state.nextClosure + 1 }
      { other with nextClosure := other.nextClosure + 1 } :=
  ⟨h.frame, h.globals, h.functions, h.speaks, h.drawing, congrArg (· + 1) h.nextClosure⟩

theorem putFunction {name : String} {function : Function} (hname : S.spoken name)
    (hfunction : function.Speaks S.spoken) :
    S.States { state with functions := state.functions.put name function }
      { other with functions := other.functions.put name function } := by
  refine ⟨h.frame, h.globals, congrArg (Bindings.put name function) h.functions, ?_, h.drawing,
    h.nextClosure⟩
  intro called found hfound
  rw [Bindings.get?_put] at hfound
  split at hfound
  · cases hfound
    rename_i hsame
    exact ⟨hsame ▸ hname, hfunction⟩
  · exact h.speaks hfound

end States

/-- Runs that make the same requests, and end alike after corresponding outcomes of these. -/
inductive Matches (S : Simulation) (R : α → β → Prop) : Run α → Run β → Prop
  | value {result : α} {other : β} {state state' : State} : R result other →
      S.States state state' → Matches S R (.done (.ok result) state) (.done (.ok other) state')
  | halt {reason other : Halt} {state state' : State} : reason.Lift S other →
      S.States state state' →
      Matches S R (.done (.error reason) state) (.done (.error other) state')
  | cut {reason : Halt} (state : State) (run : Run β) : S.cuts reason →
      Matches S R (.done (.error reason) state) run
  | waiting {request : Request} {state state' : State} {resume : Settlement → Run α}
      {resume' : Settlement → Run β} : S.States state state' →
      (∀ settlement settlement', S.Outcomes S.values settlement settlement' →
        Matches S R (resume settlement) (resume' settlement')) →
      Matches S R (.waiting request state resume) (.waiting request state' resume')

namespace Matches

variable {first : Run α} {second : Run β}

theorem bind {next : α → State → Run γ} {next' : β → State → Run δ} (h : S.Matches R first second)
    (hnext : ∀ result other, R result other → ∀ state state', S.States state state' →
      S.Matches Q (next result state) (next' other state')) :
    S.Matches Q (first.bind next) (second.bind next') := by
  induction h with
  | value h hstates => exact hnext _ _ h _ _ hstates
  | halt h hstates => exact .halt h hstates
  | cut state run h => exact .cut state _ h
  | waiting hstates _ ih => exact .waiting hstates fun _ _ h => ih _ _ h

theorem mapState {change change' : State → State} (h : S.Matches R first second)
    (hchange : ∀ state state', S.States state state' → S.States (change state) (change' state')) :
    S.Matches R (first.mapState change) (second.mapState change') := by
  induction h with
  | value h hstates => exact .value h (hchange _ _ hstates)
  | halt h hstates => exact .halt h (hchange _ _ hstates)
  | cut state run h => exact .cut _ _ h
  | waiting hstates _ ih => exact .waiting (hchange _ _ hstates) fun _ _ h => ih _ _ h

end Matches

/-- Computations whose runs from corresponding states correspond. -/
def Simulates (S : Simulation) (R : α → β → Prop) (first : Comp α) (second : Comp β) : Prop :=
  ∀ state other, S.States state other → S.Matches R (first state) (second other)

namespace Simulates

open DraftLisp.Comp

theorem pure {result : α} {other : β} (h : R result other) :
    S.Simulates R (pure result) (pure other) :=
  fun _ _ hstates => .value h hstates

theorem fail {error other : Error} (h : error.Lift S.values other) :
    S.Simulates R (Comp.fail error) (Comp.fail other) :=
  fun _ _ hstates => .halt (.error h) hstates

theorem cut {reason : Halt} (h : S.cuts reason) (second : Comp β) :
    S.Simulates R (halt reason) second :=
  fun state _ _ => .cut state _ h

theorem ofExcept {ending : Except Halt α} {ending' : Except Halt β}
    (h : S.Endings R ending ending') :
    S.Simulates R (Comp.ofExcept ending) (Comp.ofExcept ending') := by
  cases h with
  | ok h => exact pure h
  | halt h => exact fun _ _ hstates => .halt h hstates

theorem ofResult {outcome : Except Error α} {outcome' : Except Error β}
    (h : S.Outcomes R outcome outcome') :
    S.Simulates R (Comp.ofResult outcome) (Comp.ofResult outcome') := by
  cases h with
  | ok h => exact pure h
  | error h => exact fail h

theorem observe {view : State → α} {view' : State → β}
    (h : ∀ state other, S.States state other → R (view state) (view' other)) :
    S.Simulates R (Comp.observe view) (Comp.observe view') :=
  fun _ _ hstates => .value (h _ _ hstates) hstates

theorem modify {change change' : State → State}
    (h : ∀ state other, S.States state other → S.States (change state) (change' other)) :
    S.Simulates Eq (Comp.modify change) (Comp.modify change') :=
  fun _ _ hstates => .value rfl (h _ _ hstates)

theorem bind {first : Comp α} {second : Comp β} {next : α → Comp γ} {next' : β → Comp δ}
    (h : S.Simulates R first second)
    (hnext : ∀ result other, R result other → S.Simulates Q (next result) (next' other)) :
    S.Simulates Q (first >>= next) (second >>= next') := by
  intro state other hstates
  rw [bind_apply, bind_apply]
  exact (h _ _ hstates).bind fun result result' hresult => hnext _ _ hresult

theorem within {frame frame' : Bindings Value} (hframe : S.frames frame frame') {body : Comp α}
    {body' : Comp β} (h : S.Simulates R body body') :
    S.Simulates R (Comp.within frame body) (Comp.within frame' body') := by
  intro state other hstates
  refine (h _ _ (hstates.setFrame hframe)).mapState fun after after' hafter => ?_
  exact hafter.setFrame hstates.frame

theorem edit {step : Edit α} {step' : Edit β} (h : S.Edits R step step') :
    S.Simulates R (Comp.edit step) (Comp.edit step') := by
  intro state other hstates
  obtain ⟨houtcome, hdrawing⟩ := h state.drawing
  unfold Comp.edit
  rw [← hstates.drawing]
  revert houtcome hdrawing
  generalize step state.drawing = result
  generalize step' state.drawing = result'
  obtain ⟨outcome, drawing⟩ := result
  obtain ⟨outcome', drawing'⟩ := result'
  rintro (houtcome | houtcome) (rfl : drawing = drawing')
  · exact .value houtcome (hstates.setDrawing drawing)
  · exact .halt (.error houtcome) (hstates.setDrawing drawing)

theorem request (wanted : Request) : S.Simulates S.values (request wanted) (request wanted) := by
  intro state other hstates
  have hshown : S.States
      (if wanted.prompt.isEmpty then state
        else { state with drawing := state.drawing.writeLog wanted.prompt .prompt })
      (if wanted.prompt.isEmpty then other
        else { other with drawing := other.drawing.writeLog wanted.prompt .prompt }) := by
    split
    · exact hstates
    · rw [hstates.drawing]
      exact hstates.setDrawing _
  refine .waiting hshown ?_
  rintro _ _ (h | h)
  · exact .value h hshown
  · exact .halt (.error h) hshown

theorem mapAll {run : α → Comp γ} {run' : β → Comp δ} {items : List α} {others : List β}
    (h : List.Forall₂ (fun item other => S.Simulates Q (run item) (run' other)) items others) :
    S.Simulates (List.Forall₂ Q) (Comp.mapAll run items) (Comp.mapAll run' others) := by
  induction h with
  | nil => exact pure .nil
  | cons hfirst hrest ih =>
      refine hfirst.bind fun result result' hresult => ?_
      exact ih.bind fun results results' hresults => pure (.cons hresult hresults)

end Simulates

theorem Edits.naming {step : Edit α} {step' : Edit β} (h : S.Edits R step step')
    (operator : String) : S.Edits R (namingEdit operator step) (namingEdit operator step') := by
  intro drawing
  obtain ⟨houtcome, hdrawing⟩ := h drawing
  unfold namingEdit
  revert houtcome hdrawing
  generalize step drawing = result
  generalize step' drawing = result'
  obtain ⟨outcome, changed⟩ := result
  obtain ⟨outcome', changed'⟩ := result'
  rintro (houtcome | houtcome) (rfl : changed = changed')
  · exact ⟨.ok houtcome, rfl⟩
  · exact ⟨.error (houtcome.named operator), rfl⟩

theorem Endings.naming {ending : Except Halt α} {ending' : Except Halt β}
    (h : S.Endings R ending ending') (operator : String) :
    S.Endings R (namingHalt operator ending) (namingHalt operator ending') := by
  rcases h with h | (h | _ | h)
  · exact .ok h
  · exact .halt (.error (h.named operator))
  · exact .halt .overlong
  · exact .halt (.endless h)

end Simulation

end DraftLisp

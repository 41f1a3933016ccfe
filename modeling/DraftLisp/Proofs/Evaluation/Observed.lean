import DraftLisp.Evaluation

namespace DraftLisp

namespace Run

/-- All states in which a run waits or ends have a property. -/
def Always (seen : State → Prop) : Run α → Prop
  | .done _ state => seen state
  | .waiting _ state resume => seen state ∧ ∀ answer, (resume answer).Always seen

variable {seen : State → Prop}

theorem always_of_forall (h : ∀ state, seen state) (run : Run α) : run.Always seen := by
  induction run with
  | done outcome state => exact h state
  | waiting request state resume ih => exact ⟨h state, ih⟩

theorem Always.mono {other : State → Prop} {run : Run α} (h : run.Always seen)
    (himp : ∀ state, seen state → other state) : run.Always other := by
  induction run with
  | done outcome state => exact himp state h
  | waiting request state resume ih =>
      obtain ⟨hseen, hresume⟩ := h
      exact ⟨himp state hseen, fun answer => ih answer (hresume answer)⟩

theorem Always.bind {run : Run α} {next : α → State → Run β} (h : run.Always seen)
    (hnext : ∀ value state, seen state → (next value state).Always seen) :
    (run.bind next).Always seen := by
  induction run with
  | done outcome state =>
      cases outcome with
      | ok value => exact hnext value state h
      | error halt => exact h
  | waiting request state resume ih =>
      obtain ⟨hseen, hresume⟩ := h
      exact ⟨hseen, fun answer => ih answer (hresume answer)⟩

theorem Always.mapState {run : Run α} {change : State → State}
    (h : run.Always fun state => seen (change state)) : (run.mapState change).Always seen := by
  induction run with
  | done outcome state => exact h
  | waiting request state resume ih =>
      obtain ⟨hseen, hresume⟩ := h
      exact ⟨hseen, fun answer => ih answer (hresume answer)⟩

end Run

/-- What one state may become of another, where `loops` tells which names may be bound in the
frame. -/
structure Guarantee where
  becomes : (loops : String → Prop) → State → State → Prop

/-- Every primitive change is one that the guarantee allows. -/
structure Guarantee.Closed (G : Guarantee) : Prop where
  refl : ∀ loops state, G.becomes loops state state
  trans : ∀ {loops first second third},
    G.becomes loops first second → G.becomes loops second third → G.becomes loops first third
  /-- A call has a frame of its own, in which it may bind every name. -/
  within : ∀ {loops frame state after},
    G.becomes (fun _ => True) { state with frame } after →
      G.becomes loops state { after with frame := state.frame }
  loop : ∀ {loops : String → Prop} {name} state value, loops name →
    G.becomes loops state { state with frame := state.frame.put name value }
  global : ∀ loops state name value,
    G.becomes loops state { state with globals := state.globals.put name value }
  named : ∀ loops state name function,
    G.becomes loops state { state with functions := state.functions.put name function }
  closure : ∀ loops state,
    G.becomes loops state { state with nextClosure := state.nextClosure + 1 }
  edited : ∀ loops state {operator run} operands, operator ∈ Builtin.all →
    operator.action = .edit run →
      G.becomes loops state { state with drawing := (run operands state.drawing).2 }
  prompted : ∀ loops state prompt,
    G.becomes loops state { state with drawing := state.drawing.writeLog prompt .prompt }

namespace Comp

/-- A computation keeps a guarantee: whatever it makes of a state is allowed, at every point where
it can be observed. -/
def Keeps (G : Guarantee) (loops : String → Prop) (comp : Comp α) : Prop :=
  ∀ state, (comp state).Always (G.becomes loops state)

variable {G : Guarantee} {loops : String → Prop}

theorem keeps_pure (hG : G.Closed) (value : α) : Keeps G loops (pure value : Comp α) :=
  fun state => hG.refl loops state

theorem keeps_halt (hG : G.Closed) (reason : Halt) : Keeps G loops (halt reason : Comp α) :=
  fun state => hG.refl loops state

theorem keeps_fail (hG : G.Closed) (error : Error) : Keeps G loops (fail error : Comp α) :=
  keeps_halt hG _

theorem keeps_modify {change : State → State}
    (h : ∀ state, G.becomes loops state (change state)) : Keeps G loops (modify change) :=
  fun state => h state

theorem Keeps.bind (hG : G.Closed) {first : Comp α} {next : α → Comp β}
    (h : Keeps G loops first) (hnext : ∀ value, Keeps G loops (next value)) :
    Keeps G loops (first >>= next) := by
  intro state
  rw [bind_apply]
  refine (h state).bind fun value after hafter => ?_
  exact (hnext value after).mono fun last hlast => hG.trans hafter hlast

theorem Keeps.within (hG : G.Closed) {body : Comp α} (h : Keeps G (fun _ => True) body)
    (frame : Bindings Value) : Keeps G loops (within frame body) := by
  intro state
  refine Run.Always.mapState ((h { state with frame }).mono fun after hafter => ?_)
  exact hG.within hafter

theorem keeps_request (hG : G.Closed) (wanted : Request) : Keeps G loops (request wanted) := by
  intro state
  have hshown : G.becomes loops state (if wanted.prompt.isEmpty then state
      else { state with drawing := state.drawing.writeLog wanted.prompt .prompt }) := by
    split
    · exact hG.refl loops state
    · exact hG.prompted loops state _
  refine ⟨hshown, ?_⟩
  rintro (error | value)
  · exact hshown
  · exact hshown

theorem namingEdit_snd (operator : String) (step : Edit α) (drawing : Drawing) :
    (namingEdit operator step drawing).2 = (step drawing).2 := by
  unfold namingEdit
  split
  · rename_i h
    rw [h]
  · rfl

theorem keeps_edit (hG : G.Closed) {operator : Builtin} {run : List Value → Edit Value}
    (hmem : operator ∈ Builtin.all) (haction : operator.action = .edit run)
    (operands : List Value) :
    Keeps G loops (edit (namingEdit operator.name (run operands))) := by
  intro state
  have hedited := hG.edited loops state operands hmem haction
  rw [← namingEdit_snd operator.name] at hedited
  unfold edit
  split
  · rename_i h
    rw [h] at hedited
    exact hedited
  · rename_i h
    rw [h] at hedited
    exact hedited

end Comp

end DraftLisp

import DraftLisp.Proofs.Evaluation.Kept

namespace DraftLisp

inductive Rebound (names : String → Prop) : Bindings Value → Bindings Value → Prop
  | refl (frame : Bindings Value) : Rebound names frame frame
  | put {first second : Bindings Value} {name : String} (value : Value) :
      Rebound names first second → names name → Rebound names first (second.put name value)

namespace Rebound

variable {names : String → Prop} {first second third : Bindings Value}

theorem trans (h : Rebound names first second) (h' : Rebound names second third) :
    Rebound names first third := by
  induction h' with
  | refl => exact h
  | put value _ hname ih => exact .put value ih hname

theorem get?_eq (h : Rebound names first second) {name : String} (hname : ¬names name) :
    second.get? name = first.get? name := by
  induction h with
  | refl => rfl
  | put value _ hother ih =>
      rw [Bindings.get?_put, if_neg, ih]
      rintro rfl
      exact hname hother

theorem isSome_get? (h : Rebound names first second) {name : String}
    (hbound : (first.get? name).isSome) : (second.get? name).isSome := by
  induction h with
  | refl => exact hbound
  | put value _ _ ih =>
      rw [Bindings.get?_put]
      split
      · rfl
      · exact ih

end Rebound

/-- Only loops bind names in the frame. -/
def frames : Guarantee where
  becomes loops before after := Rebound loops before.frame after.frame

theorem closed_frames : frames.Closed where
  refl _ state := .refl state.frame
  trans h h' := h.trans h'
  within _ := .refl _
  loop state value hname := .put value (.refl state.frame) hname
  global _ state _ _ := .refl state.frame
  named _ state _ _ := .refl state.frame
  closure _ state := .refl state.frame
  edited _ state _ _ _ _ _ := .refl state.frame
  prompted _ state _ := .refl state.frame

/-- Where nothing may be bound, frames are related. -/
def relatedFrames (R : Bindings Value → Bindings Value → Prop) : Guarantee where
  becomes loops before after := (∀ name, ¬loops name) → R before.frame after.frame

theorem closed_relatedFrames {R : Bindings Value → Bindings Value → Prop}
    (hrefl : ∀ frame, R frame frame)
    (htrans : ∀ first second third, R first second → R second third → R first third) :
    (relatedFrames R).Closed where
  refl _ state _ := hrefl state.frame
  trans h h' hnone := htrans _ _ _ (h hnone) (h' hnone)
  within _ _ := hrefl _
  loop _ _ hname hnone := absurd hname (hnone _)
  global _ state _ _ _ := hrefl state.frame
  named _ state _ _ _ := hrefl state.frame
  closure _ state _ := hrefl state.frame
  edited _ state _ _ _ _ _ _ := hrefl state.frame
  prompted _ state _ _ := hrefl state.frame

/-- Whatever the body of a call does, the frame of the caller is as before wherever the call can be
observed. -/
theorem always_frame_apply (ev : Evaluator) (level : Nat) {callable : Callable}
    (hregistered : callable.Registered) (operands : List Value) (state : State) :
    (apply ev level callable operands state).Always fun seen => seen.frame = state.frame := by
  have hclosed : (relatedFrames Eq).Closed :=
    closed_relatedFrames (fun _ => rfl) fun _ _ _ => Eq.trans
  have hev : ∀ level form, Comp.Keeps (relatedFrames Eq) (fun _ => True) (ev level form) :=
    fun level form before =>
      Run.always_of_forall (fun after hnone => absurd trivial (hnone "")) _
  have hkeeps : Comp.Keeps (relatedFrames Eq) (fun _ => False) (apply ev level callable operands) :=
    keeps_apply hclosed hev level hregistered operands
  exact (hkeeps state).mono fun seen hseen => (hseen fun _ => id).symm

/-- An assignment changes the frame only where evaluating its operands does. -/
theorem always_related_assignPairs {R : Bindings Value → Bindings Value → Prop}
    (hrefl : ∀ frame, R frame frame)
    (htrans : ∀ first second third, R first second → R second third → R first third)
    {ev : Form → Comp Value} {operands : List Form}
    (hev : ∀ form ∈ operands, ∀ before,
      (ev form before).Always fun seen => R before.frame seen.frame)
    (state : State) :
    (SpecialForm.assignPairs ev operands state).Always fun seen => R state.frame seen.frame := by
  have hkeeps : Comp.Keeps (relatedFrames R) (fun _ => False)
      (SpecialForm.assignPairs ev operands) :=
    SpecialForm.keeps_assignPairs (closed_relatedFrames hrefl htrans) fun form hform before =>
      (hev form hform before).mono fun seen hseen _ => hseen
  exact (hkeeps state).mono fun seen hseen => hseen fun _ => id

theorem always_rebound_eval (rounds limit room level : Nat) (form : Form) (state : State) :
    (eval rounds limit room level form state).Always fun seen =>
      Rebound (· ∈ form.loopVariables) state.frame seen.frame :=
  keeps_eval closed_frames rounds limit room level (fun _ => id) state

def loopOverX : Form :=
  .list [.symbol "FOREACH", .symbol "X", (Form.list [.number 1.0]).quoted, .symbol "X"]

def callerOfX : State := { Session.empty with frame := [("X", .truth)] }

/-- A form changes its frame only at its own loop variables and unbinds nothing. A call never
changes the frame of its caller, and an assignment changes it only where its operands do. -/
theorem frame_changes (rounds limit room level : Nat) (form : Form) (state : State) :
    ((eval rounds limit room level form state).Always fun seen =>
      (∀ name, name ∉ form.loopVariables → seen.frame.get? name = state.frame.get? name) ∧
        ∀ name, (state.frame.get? name).isSome → (seen.frame.get? name).isSome) ∧
      (∀ (ev : Evaluator) (callable : Callable) (operands : List Value), callable.Registered →
        (apply ev level callable operands state).Always fun seen => seen.frame = state.frame) ∧
      ∀ (R : Bindings Value → Bindings Value → Prop) (ev : Form → Comp Value)
        (operands : List Form), (∀ frame, R frame frame) →
        (∀ first second third, R first second → R second third → R first third) →
        (∀ operand ∈ operands, ∀ before,
          (ev operand before).Always fun seen => R before.frame seen.frame) →
        (SpecialForm.assignPairs ev operands state).Always fun seen =>
          R state.frame seen.frame := by
  refine ⟨?_, ?_, ?_⟩
  · refine (always_rebound_eval rounds limit room level form state).mono fun seen hseen => ?_
    exact ⟨fun name hname => hseen.get?_eq hname, fun name hbound => hseen.isSome_get? hbound⟩
  · intro ev callable operands hregistered
    exact always_frame_apply ev level hregistered operands state
  · intro R ev operands hrefl htrans hev
    exact always_related_assignPairs hrefl htrans hev state

/-- A loop in the body of a closure binds a name that the caller has bound as well. -/
theorem frame_changes_loop_in_body :
    (Callable.closure [] [loopOverX] []).Registered ∧
      (apply (eval 8 8 8) 0 (.closure [] [loopOverX] []) [] callerOfX).Always fun seen =>
        seen.frame = [("X", .truth)] :=
  ⟨trivial, (frame_changes 8 8 8 0 loopOverX callerOfX).2.1 _ _ _ trivial⟩

end DraftLisp

import DraftLisp.Proofs.Drawing.Effects
import DraftLisp.Proofs.Execution.Session

namespace DraftLisp

variable (P : Drawing → Prop)

/-- Evaluations keep a property of the drawing. -/
def Guarantee.ofDrawing : Guarantee where
  becomes _ before after := P before.drawing → P after.drawing

def Invariant.ofDrawing : Invariant where
  session session := P session.drawing
  value _ := True

theorem Invariant.accepting_ofDrawing : (Invariant.ofDrawing P).Accepting :=
  ⟨trivial, fun _ _ => trivial⟩

variable {P} (heffect : ∀ {operator operands before result},
    Builtin.Effect operator operands before result → P before → P result.2)

include heffect

theorem Guarantee.closed_ofDrawing
    (hprompted : ∀ {before} prompt, P before → P (before.writeLog prompt .prompt)) :
    (Guarantee.ofDrawing P).Closed where
  refl _ _ := id
  trans h h' := h' ∘ h
  within h := h
  loop _ _ _ := id
  global _ _ _ _ := id
  named _ _ _ _ := id
  closure _ _ := id
  edited _ state _ _ operands hmem haction h :=
    heffect (Builtin.effect_of_mem hmem haction operands state.drawing) h
  prompted _ _ prompt h := hprompted prompt h

/-- Wherever an evaluation waits and where it ends. -/
theorem Interpreter.always_evaluation
    (hprompted : ∀ {before} prompt, P before → P (before.writeLog prompt .prompt))
    {interpreter : Interpreter} (h : P interpreter.session.drawing) (source : String) :
    (interpreter.evaluation source { interpreter.session with frame := [] }).Always
      fun state => P state.drawing := by
  have hkeeps : Comp.Keeps (.ofDrawing P) (fun _ => True) (interpreter.evaluation source) :=
    Interpreter.keeps_evaluation (Guarantee.closed_ofDrawing heffect hprompted) interpreter source
  exact (hkeeps { interpreter.session with frame := [] }).mono fun state hstate => hstate h

/-- A script that does not report only does what its operators do. -/
theorem Invariant.holdsOf_evaluation
    (hprompted : ∀ {before} prompt, P before → P (before.writeLog prompt .prompt))
    {interpreter : Interpreter} (h : P interpreter.session.drawing) (source : String)
    (moves : List Move) :
    (Invariant.ofDrawing P).HoldsOf ((⟨source, false, moves⟩ : Batch).run interpreter) := by
  have hevaluation := Interpreter.always_evaluation heffect hprompted h source
  have hstart : (Invariant.ofDrawing P).HoldsOf
      ⟨interpreter, .ready (interpreter.evaluation source)⟩ :=
    ⟨⟨h, fun _ _ _ _ _ => trivial⟩, hevaluation.throughout fun _ => trivial⟩
  exact hstart.playAll (accepting_ofDrawing P) moves

theorem Invariant.kept_ofDrawing (hempty : P .empty)
    (hlogged : ∀ {before} text style, P before → P (before.writeLog text style)) :
    (Invariant.ofDrawing P).Kept where
  toAccepting := accepting_ofDrawing P
  empty := hempty
  logged text style h := hlogged text style h
  evaluated _ source h :=
    (Interpreter.always_evaluation heffect (hlogged · .prompt) h source).throughout fun _ => trivial

end DraftLisp

import DraftLisp.Proofs.Direct.Playback
import DraftLisp.Proofs.Drawing.Effects
import DraftLisp.Proofs.Drawing.Histories
import DraftLisp.Proofs.Execution.Script

namespace DraftLisp

def Drawing.lines (drawing : Drawing) : List (String × LogStyle) := drawing.log.toList

theorem Drawing.lines_writeLog (drawing : Drawing) (text : String) (style : LogStyle) :
    (drawing.writeLog text style).lines = drawing.lines ++ [(text, style)] := by
  simp [lines, writeLog]

/-- Operators only add lines. -/
theorem Builtin.Effect.lines_isPrefix {operator : String} {operands : List Value} {before : Drawing}
    {result : Except Error Value × Drawing} (h : Effect operator operands before result) :
    before.lines <+: result.2.lines := by
  have hsame {after : Drawing} (hlog : after.log = before.log) : before.lines <+: after.lines := by
    have hlines : after.lines = before.lines := congrArg Array.toList hlog
    exact hlines ▸ List.prefix_rfl
  cases h with
  | refused error => exact List.prefix_rfl
  | noted value hnoted =>
      cases hnoted with
      | nothing => exact List.prefix_rfl
      | written text _ =>
          rw [before.lines_writeLog]
          exact List.prefix_append _ _
      | set name value => exact hsame rfl
  | made value data _ =>
      exact hsame (Drawing.recorded_add (before.checkpoint "entmake") data true).log
  | modified value _ hchanged => exact hsame (Drawing.recorded_of_update hchanged).log
  | deleted value _ hchanged => exact hsame (Drawing.recorded_of_remove hchanged).log
  | redrawn value _ => exact hsame rfl
  | @called value call _ =>
      refine hsame ?_
      unfold CommandCall.carriedOut
      cases call.name? <;> rfl
  | nameless _ => exact hsame rfl

namespace Run

/-- Wherever a run waits and where it ends, its log continues the one at the place before. -/
def Extends (before : List (String × LogStyle)) : Run α → Prop
  | .done _ state => before <+: state.drawing.lines
  | .waiting _ state resume =>
      before <+: state.drawing.lines ∧ ∀ answer, (resume answer).Extends state.drawing.lines

variable {before : List (String × LogStyle)}

theorem Extends.prefix_state {run : Run α} (h : run.Extends before) :
    before <+: run.state.drawing.lines := by
  cases run with
  | done outcome state => exact h
  | waiting request state resume => exact h.1

theorem Extends.mono {run : Run α} (h : run.Extends before)
    {earlier : List (String × LogStyle)} (hearlier : earlier <+: before) :
    run.Extends earlier := by
  cases run with
  | done outcome state => exact hearlier.trans h
  | waiting request state resume => exact ⟨hearlier.trans h.1, h.2⟩

theorem Extends.follow {run : Run α} (h : run.Extends before) (received : List Settlement) :
    (run.follow received).Extends before := by
  induction received generalizing run before with
  | nil => exact h
  | cons outcome rest ih =>
      cases run with
      | done result state => exact h
      | waiting request state resume => exact (ih (h.2 outcome)).mono h.1

theorem Extends.bind {run : Run α} {next : α → State → Run β} (h : run.Extends before)
    (hnext : ∀ value state, (next value state).Extends state.drawing.lines) :
    (run.bind next).Extends before := by
  induction run generalizing before with
  | done outcome state =>
      cases outcome with
      | ok value => exact (hnext value state).mono h
      | error reason => exact h
  | waiting request state resume ih => exact ⟨h.1, fun answer => ih answer (h.2 answer)⟩

theorem Extends.mapState {run : Run α} (h : run.Extends before) {change : State → State}
    (hchange : ∀ state, (change state).drawing = state.drawing) :
    (run.mapState change).Extends before := by
  induction run generalizing before with
  | done outcome state =>
      rw [Run.mapState, Extends, hchange]
      exact h
  | waiting request state resume ih =>
      rw [Run.mapState, Extends, hchange]
      exact ⟨h.1, fun answer => ih answer (h.2 answer)⟩

theorem Extends.report {run : Run Value} (h : run.Extends before) (echo : Bool) :
    (Interpreter.report echo run).Extends before := by
  induction run generalizing before with
  | done outcome state =>
      have hwritten (text : String) (style : LogStyle) :
          before <+: (state.drawing.writeLog text style).lines := by
        rw [Drawing.lines_writeLog]
        exact List.prefix_append_of_prefix h
      rcases outcome with (error | _ | _) | value
      · exact hwritten _ _
      · exact h
      · exact h
      · cases echo
        · exact h
        · exact hwritten _ _
  | waiting request state resume ih => exact ⟨h.1, fun answer => ih answer (h.2 answer)⟩

end Run

namespace Comp

/-- A computation only adds lines to the log. -/
def Writes (comp : Comp α) : Prop := ∀ state, (comp state).Extends state.drawing.lines

theorem Writes.observe_bind {view : State → α} {next : α → Comp β}
    (h : ∀ state, Writes (next (view state))) : Writes (observe view >>= next) := by
  intro state
  rw [bind_apply]
  exact h state state

theorem writes_edit {operator : Builtin} {run : List Value → Edit Value}
    (hmem : operator ∈ Builtin.all) (haction : operator.action = .edit run)
    (operands : List Value) : Writes (edit (namingEdit operator.name (run operands))) := by
  intro state
  have heffect := (Builtin.effect_of_mem hmem haction operands state.drawing).lines_isPrefix
  rw [← namingEdit_snd operator.name] at heffect
  unfold edit
  split
  · rename_i h
    rw [h] at heffect
    exact heffect
  · rename_i h
    rw [h] at heffect
    exact heffect

theorem writes_request (wanted : Request) : Writes (request wanted) := by
  intro state
  refine ⟨?_, ?_⟩
  · split
    · exact List.prefix_rfl
    · rw [Drawing.lines_writeLog]
      exact List.prefix_append _ _
  · rintro (error | value) <;> exact List.prefix_rfl

theorem writes_input (ev : Evaluator) (level : Nat) {operator : Builtin}
    {ask : List Value → Drawing → Except Error Demand} {operands : List Value}
    (haction : operator.action = .input ask)
    (hcheck : operator.arity.check operands.length = .ok ()) :
    Writes (apply ev level (.builtin operator) operands) := by
  rw [apply_input hcheck haction]
  refine Writes.observe_bind fun state => ?_
  split
  · exact fun _ => List.prefix_rfl
  · exact writes_request _
  · exact fun _ => List.prefix_rfl

def writing : Property where
  holds _ _ comp := Writes comp
  pure _ _ _ _ := List.prefix_rfl
  halt _ _ _ _ := List.prefix_rfl
  observe_bind := Writes.observe_bind
  bind h hnext state := by
    rw [bind_apply]
    exact (h state).bind fun value => hnext value
  within _ _ _ frame h state := (h { state with frame }).mapState fun _ => rfl
  loop _ _ _ := List.prefix_rfl
  global _ _ _ _ := List.prefix_rfl
  named _ _ _ _ := List.prefix_rfl
  closure _ _ _ _ := List.prefix_rfl
  edit _ _ _ operands hmem haction := writes_edit hmem haction operands
  input _ ev level _ _ _ _ haction hcheck := writes_input ev level haction hcheck

end Comp

/-- A script only adds lines to the log, wherever it can be observed. -/
theorem Interpreter.extends_script (interpreter : Interpreter) (source : String) :
    (interpreter.script source).Extends interpreter.session.drawing.lines :=
  have hwrites : Comp.writing.holds (fun _ => True) (interpreter.evaluation source) :=
    interpreter.holds_evaluation Comp.writing source
  (hwrites { interpreter.session with frame := [] }).report _

end DraftLisp

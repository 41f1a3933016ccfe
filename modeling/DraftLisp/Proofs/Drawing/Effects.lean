import DraftLisp.Builtin.Registry
import DraftLisp.Proofs.Drawing.CommandCalls
import DraftLisp.Proofs.Evaluation.Application

namespace DraftLisp

namespace Drawing

/-- A change of nothing but the log, the events of commands and the settings. -/
structure SameRecords (before after : Drawing) : Prop where
  entities : after.entities = before.entities
  nextId : after.nextId = before.nextId
  checkpoints : after.checkpoints = before.checkpoints
  redraws : after.redraws = before.redraws
  journal : after.journal = before.journal

variable (drawing : Drawing)

theorem SameRecords.refl : drawing.SameRecords drawing := ⟨rfl, rfl, rfl, rfl, rfl⟩

theorem sameRecords_writeLog (text : String) (style : LogStyle) :
    drawing.SameRecords (drawing.writeLog text style) :=
  ⟨rfl, rfl, rfl, rfl, rfl⟩

theorem sameRecords_sendAll (events : List CommandEvent) :
    drawing.SameRecords (drawing.sendAll events) :=
  ⟨rfl, rfl, rfl, rfl, rfl⟩

theorem sameRecords_setSetting (name : String) (value : Setting) :
    drawing.SameRecords (drawing.setSetting name value) :=
  ⟨rfl, rfl, rfl, rfl, rfl⟩

theorem execute_cases (name : String) (arguments : List String) :
    name = "" ∧ drawing.execute name arguments = .error .emptyCommandName ∨
      name ≠ "" ∧
        drawing.execute name arguments = .ok (drawing.send (.execute name arguments)) := by
  by_cases hname : name = ""
  · exact .inl ⟨hname, by simp [execute, hname]⟩
  · exact .inr ⟨hname, by simp [execute, hname]⟩

theorem startCommand_cases (name : String) :
    name = "" ∧ drawing.startCommand name = .error .emptyCommandName ∨
      name ≠ "" ∧ drawing.startCommand name = .ok (drawing.send (.start name)) := by
  by_cases hname : name = ""
  · exact .inl ⟨hname, by simp [startCommand, hname]⟩
  · exact .inr ⟨hname, by simp [startCommand, hname]⟩

variable {drawing} {id : EntityId} {entity : Entity}

theorem any_of_get? (h : drawing.get? id = some entity) :
    drawing.entities.any (·.id = id) := by
  have hmem := Array.mem_of_find?_eq_some h
  have hid : entity.id = id := by simpa using Array.find?_some h
  exact Array.any_eq_true'.mpr ⟨entity, hmem, by simp [hid]⟩

theorem update_of_get? (h : drawing.get? id = some entity) (data : EntityData) (skipUndo : Bool) :
    ∃ changed, drawing.update id data skipUndo = .ok changed :=
  ⟨_, if_pos (any_of_get? h)⟩

theorem remove_of_get? (h : drawing.get? id = some entity) (skipUndo : Bool) :
    ∃ changed, drawing.remove id skipUndo = .ok changed :=
  ⟨_, if_pos (any_of_get? h)⟩

end Drawing

/-- Lines that tell how a script has ended. -/
def LogStyle.reports : LogStyle → Bool
  | .result | .error => true
  | _ => false

namespace Builtin

open Editing

/-- A command that is called with a name of nothing but marks in front. -/
def Nameless (operator : String) (operands : List Value) : Prop :=
  (operator = "COMMAND" ∨ operator = "COMMAND-S") ∧
    ∃ first ∈ operands.head?, commandName first = .ok ""

/-- What an operator can do to the log and the settings. -/
inductive Noted (before : Drawing) : Drawing → Prop
  | nothing : Noted before before
  | written (text : String) {style : LogStyle} : style.reports = false →
      Noted before (before.writeLog text style)
  | set (name : String) (value : Setting) : Noted before (before.setSetting name value)

theorem Noted.same {before after : Drawing} (h : Noted before after) :
    before.SameRecords after := by
  cases h with
  | nothing => exact .refl before
  | written text _ => exact before.sameRecords_writeLog text _
  | set name value => exact before.sameRecords_setSetting name value

/-- What can become of a drawing when the operator with a name is used on operands. -/
inductive Effect (operator : String) (operands : List Value) (before : Drawing) :
    Except Error Value × Drawing → Prop
  | refused (error : Error) : Effect operator operands before (.error error, before)
  | noted (value : Value) {after : Drawing} : Noted before after →
      Effect operator operands before (.ok value, after)
  | made (value : Value) (data : EntityData) : operator = "ENTMAKE" →
      Effect operator operands before
        (.ok value, ((before.checkpoint "entmake").add data true).2.redraw)
  | modified (value : Value) {id : EntityId} {data : EntityData} {changed : Drawing} :
      operator = "ENTMOD" → (before.checkpoint "entmod").update id data true = .ok changed →
      Effect operator operands before (.ok value, changed.redraw)
  | deleted (value : Value) {id : EntityId} {changed : Drawing} : operator = "ENTDEL" →
      (before.checkpoint "entdel").remove id true = .ok changed →
      Effect operator operands before (.ok value, changed.redraw)
  | redrawn (value : Value) : operator = "ENTUPD" →
      Effect operator operands before (.ok value, before.redraw)
  | called (value : Value) {call : CommandCall} : call.From operator operands →
      Effect operator operands before (.ok value, call.carriedOut before)
  | nameless : Nameless operator operands →
      Effect operator operands before (.error (.host .emptyCommandName), before.checkpoint "")

/-- A step that leaves the drawing alone. -/
def Reads (step : Edit α) : Prop := ∀ drawing, (step drawing).2 = drawing

theorem reads_lift (result : Except Error α) : Reads (lift result) := fun _ => rfl

theorem reads_ask (question : Drawing → α) : Reads (ask question) := fun _ => rfl

theorem reads_operand (operands : List Value) (index : Nat) : Reads (operand operands index) := by
  intro drawing
  unfold operand
  cases operands[index]? <;> rfl

theorem head?_of_operand {operands : List Value} {first : Value} {drawing : Drawing}
    (h : operand operands 0 drawing = (.ok first, drawing)) : first ∈ operands.head? := by
  cases operands with
  | nil => cases h
  | cons value rest =>
      cases h
      rfl

theorem reads_existing (operator : String) (id : EntityId) : Reads (existing operator id) := by
  intro drawing
  unfold existing
  rw [edit_bind_apply]
  simp only [ask]
  cases drawing.get? id <;> rfl

theorem get?_of_existing {operator : String} {id : EntityId} {drawing after : Drawing}
    {entity : Entity} (h : existing operator id drawing = (.ok entity, after)) :
    drawing.get? id = some entity := by
  unfold existing at h
  rw [edit_bind_apply] at h
  simp only [ask] at h
  cases hget : drawing.get? id with
  | none =>
      rw [hget] at h
      cases h
  | some found =>
      rw [hget] at h
      cases h
      rfl

theorem undoStep_apply (label : String) (step : Edit α) (drawing : Drawing) :
    undoStep label step drawing =
      match step (drawing.checkpoint label) with
      | (.ok result, changed) => (.ok result, changed.redraw)
      | (.error error, changed) => (.error error, changed) := by
  unfold undoStep
  rw [edit_bind_apply]
  simp only [change]
  rw [edit_bind_apply]
  rcases step (drawing.checkpoint label) with ⟨_ | _, changed⟩ <;> rfl

theorem undoStep_attempt (label : String) (step : Drawing → Except HostFault Drawing)
    (drawing : Drawing) :
    undoStep label (attempt step) drawing =
      match step (drawing.checkpoint label) with
      | .ok changed => (.ok (), changed.redraw)
      | .error fault => (.error (.host fault), drawing.checkpoint label) := by
  rw [undoStep_apply]
  unfold attempt
  cases step (drawing.checkpoint label) <;> rfl

theorem command_nil (drawing : Drawing) :
    command [] drawing = (.ok .nil, CommandCall.cancel.carriedOut drawing) :=
  congrArg (Prod.mk _) (drawing.send_eq_sendAll .cancel)

theorem runSteps_apply (name : String) (arguments : List Value) (value : Value)
    (drawing : Drawing) :
    (do
      undoStep name do
        attempt (·.startCommand name)
        change (·.send .settle)
        feedAll arguments
      return value : Edit Value) drawing =
      if name = "" then (.error (.host .emptyCommandName), drawing.checkpoint name)
      else (.ok value, (CommandCall.steps name arguments).carriedOut drawing) := by
  rw [edit_bind_apply, undoStep_apply, edit_bind_apply]
  simp only [attempt]
  obtain ⟨hempty, hstart⟩ | ⟨hne, hstart⟩ := (drawing.checkpoint name).startCommand_cases name
  · rw [hstart, if_pos hempty]
  · rw [hstart, if_neg hne]
    simp only [edit_bind_apply, change, feedAll_apply, Drawing.send_eq_sendAll,
      Drawing.sendAll_sendAll]
    rfl

theorem runAtOnce_apply (name : String) (arguments : List Value) (value : Value)
    (drawing : Drawing) :
    (do
      undoStep name (attempt (·.execute name (arguments.map argumentText)))
      return value : Edit Value) drawing =
      if name = "" then (.error (.host .emptyCommandName), drawing.checkpoint name)
      else (.ok value, (CommandCall.atOnce name arguments).carriedOut drawing) := by
  rw [edit_bind_apply, undoStep_attempt]
  obtain ⟨hempty, hrun⟩ | ⟨hne, hrun⟩ :=
    (drawing.checkpoint name).execute_cases name (arguments.map argumentText)
  · rw [hrun, if_pos hempty]
  · rw [hrun, if_neg hne, Drawing.send_eq_sendAll]
    rfl

namespace Effect

variable {operator : String} {operands : List Value} {drawing : Drawing}

/-- A step that only reads does not count. -/
theorem after_reading {step : Edit α} {next : α → Edit Value} (hreads : Reads step)
    (hnext : ∀ result, step drawing = (.ok result, drawing) →
      Effect operator operands drawing (next result drawing)) :
    Effect operator operands drawing ((step >>= next) drawing) := by
  have hsame := hreads drawing
  rw [edit_bind_apply]
  rcases hstep : step drawing with ⟨_ | result, after⟩
  · obtain rfl : after = drawing := by simpa [hstep] using hsame
    exact .refused _
  · obtain rfl : after = drawing := by simpa [hstep] using hsame
    exact hnext result hstep

/-- Reads an operand. -/
theorem after_operand (reader : Reader α) (index : Nat) {next : α → Edit Value}
    (hnext : ∀ result, Effect operator operands drawing (next result drawing)) :
    Effect operator operands drawing
      ((do next (← lift (reader (← operand operands index))) : Edit Value) drawing) :=
  after_reading (reads_operand _ _) fun _ _ => after_reading (reads_lift _) fun result _ =>
    hnext result

variable (operands drawing)

theorem of_writing (spell : Value → String) :
    Effect operator operands drawing (writing spell operands drawing) := by
  cases operands with
  | nil => exact .noted _ .nothing
  | cons value rest => exact .noted _ (.written _ rfl)

theorem of_prompt : Effect operator operands drawing (prompt operands drawing) :=
  after_operand _ 0 fun _ => .noted _ (.written _ rfl)

theorem of_terpri : Effect operator operands drawing (terpri operands drawing) :=
  .noted _ (.written _ rfl)

theorem of_alert : Effect operator operands drawing (alert operands drawing) :=
  after_reading (reads_operand _ _) fun _ _ => .noted _ (.written _ rfl)

theorem of_distance : Effect operator operands drawing (distance operands drawing) :=
  after_operand _ 0 fun _ => after_operand _ 1 fun _ => .noted _ .nothing

theorem of_angle : Effect operator operands drawing (angle operands drawing) :=
  after_operand _ 0 fun _ => after_operand _ 1 fun _ => .noted _ .nothing

theorem of_polar : Effect operator operands drawing (polar operands drawing) :=
  after_operand _ 0 fun _ => after_operand _ 1 fun _ => after_operand _ 2 fun _ =>
    .noted _ .nothing

theorem of_inters : Effect operator operands drawing (inters operands drawing) :=
  after_operand _ 0 fun _ => after_operand _ 1 fun _ => after_operand _ 2 fun _ =>
    after_operand _ 3 fun _ => .noted _ .nothing

theorem of_entget : Effect operator operands drawing (entget operands drawing) :=
  after_operand _ 0 fun _ => after_reading (reads_ask _) fun _ _ => .noted _ .nothing

theorem of_entmod : Effect "ENTMOD" operands drawing (entmod operands drawing) := by
  refine after_reading (reads_operand _ _) fun list _ => ?_
  cases Groups.entityId? list with
  | none => exact .refused _
  | some id =>
      refine after_reading (reads_existing _ id) fun entity hentity => ?_
      refine after_reading (reads_lift _) fun data _ => ?_
      have hget := get?_of_existing hentity
      obtain ⟨changed, hchanged⟩ := (drawing.checkpoint "entmod").update_of_get? hget data true
      rw [edit_bind_apply, undoStep_attempt, hchanged]
      exact .modified _ rfl hchanged

theorem of_entmake : Effect "ENTMAKE" operands drawing (entmake operands drawing) := by
  refine after_reading (reads_operand _ _) fun list _ => ?_
  refine after_reading (reads_ask _) fun layer _ => ?_
  refine after_reading (reads_lift _) fun data _ => ?_
  rw [edit_bind_apply, undoStep_apply]
  exact .made _ data rfl

theorem of_entdel : Effect "ENTDEL" operands drawing (entdel operands drawing) := by
  refine after_operand _ 0 fun id => after_reading (reads_existing _ id) fun entity hentity => ?_
  have hget := get?_of_existing hentity
  obtain ⟨changed, hchanged⟩ := (drawing.checkpoint "entdel").remove_of_get? hget true
  rw [edit_bind_apply, undoStep_attempt, hchanged]
  exact .deleted _ rfl hchanged

theorem of_entnext : Effect operator operands drawing (entnext operands drawing) := by
  refine after_reading (reads_ask _) fun ids _ => ?_
  cases operands with
  | nil => exact .noted _ .nothing
  | cons after rest => exact after_reading (reads_lift _) fun _ _ => .noted _ .nothing

theorem of_entlast : Effect operator operands drawing (entlast operands drawing) :=
  .noted _ .nothing

theorem of_entupd : Effect "ENTUPD" operands drawing (entupd operands drawing) :=
  after_operand _ 0 fun id => after_reading (reads_existing _ id) fun _ _ => .redrawn _ rfl

theorem of_command : Effect "COMMAND" operands drawing (command operands drawing) := by
  cases operands with
  | nil =>
      rw [command_nil]
      exact .called _ (.cancel rfl rfl)
  | cons first rest =>
      refine after_reading (reads_lift _) fun name hname => ?_
      have hread : commandName first = .ok name := congrArg Prod.fst hname
      rw [runSteps_apply]
      split
      · rename_i hempty
        subst hempty
        exact .nameless ⟨.inl rfl, first, rfl, hread⟩
      · rename_i hne
        exact .called _ (.steps rfl rfl hread hne)

theorem of_commandAtOnce :
    Effect "COMMAND-S" operands drawing (commandAtOnce operands drawing) := by
  refine after_reading (reads_operand _ _) fun first hfirst => ?_
  refine after_reading (reads_lift _) fun name hname => ?_
  have hread : commandName first = .ok name := congrArg Prod.fst hname
  have hhead := head?_of_operand hfirst
  rw [runAtOnce_apply]
  split
  · rename_i hempty
    subst hempty
    exact .nameless ⟨.inr rfl, first, hhead, hread⟩
  · rename_i hne
    obtain ⟨rest, rfl⟩ := List.head?_eq_some_iff.mp hhead
    exact .called _ (.atOnce rfl rfl hread hne)

theorem of_getvar : Effect operator operands drawing (getvar operands drawing) := by
  refine after_operand _ 0 fun name => after_reading (reads_ask _) fun setting _ => ?_
  cases setting with
  | none => exact .noted _ .nothing
  | some setting => cases setting <;> exact .noted _ .nothing

theorem of_setvar : Effect operator operands drawing (setvar operands drawing) := by
  refine after_operand _ 0 fun name => after_reading (reads_operand _ _) fun value _ => ?_
  cases value
  case number | string => exact .noted _ (.set _ _)
  all_goals exact .refused _

variable {operands drawing}

theorem naming {step : Edit Value} (h : Effect operator operands drawing (step drawing)) :
    Effect operator operands drawing (namingEdit operator step drawing) := by
  unfold namingEdit
  generalize step drawing = result at h
  cases h with
  | refused error => exact .refused _
  | noted value hnoted => exact .noted value hnoted
  | made value data hname => exact .made value data hname
  | modified value hname hchanged => exact .modified value hname hchanged
  | deleted value hname hchanged => exact .deleted value hname hchanged
  | redrawn value hname => exact .redrawn value hname
  | called value hcall => exact .called value hcall
  | nameless h => exact .nameless h

end Effect

/-- An operator on the drawing has no other effects than those that its name allows. -/
def Effective (operator : Builtin) : Prop :=
  ∃ run, operator.action = .edit run ∧
    ∀ operands drawing, Effect operator.name operands drawing (run operands drawing)

theorem effective_editing : ∀ operator ∈ editing, Effective operator := by
  simp only [editing, List.forall_mem_cons]
  refine ⟨⟨_, rfl, fun _ _ => .of_writing _ _ _⟩, ⟨_, rfl, fun _ _ => .of_writing _ _ _⟩,
    ⟨_, rfl, fun _ _ => .of_writing _ _ _⟩, ⟨_, rfl, .of_prompt⟩, ⟨_, rfl, .of_terpri⟩,
    ⟨_, rfl, .of_alert⟩, ⟨_, rfl, .of_distance⟩, ⟨_, rfl, .of_angle⟩, ⟨_, rfl, .of_polar⟩,
    ⟨_, rfl, .of_inters⟩, ⟨_, rfl, .of_entget⟩, ⟨_, rfl, .of_entmod⟩, ⟨_, rfl, .of_entmake⟩,
    ⟨_, rfl, .of_entdel⟩, ⟨_, rfl, .of_entnext⟩, ⟨_, rfl, .of_entlast⟩, ⟨_, rfl, .of_entupd⟩,
    ⟨_, rfl, .of_command⟩, ⟨_, rfl, .of_commandAtOnce⟩, ⟨_, rfl, .of_getvar⟩,
    ⟨_, rfl, .of_setvar⟩, by simp⟩

def edits : Action → Bool
  | .edit _ => true
  | _ => false

theorem filter_edits : all.filter (fun operator => edits operator.action) = editing := rfl

/-- No other operators change the drawing. -/
theorem mem_editing {operator : Builtin} {run : List Value → Edit Value} (hmem : operator ∈ all)
    (haction : operator.action = .edit run) : operator ∈ editing := by
  rw [← filter_edits]
  exact List.mem_filter.mpr ⟨hmem, by rw [haction]; rfl⟩

theorem effect_of_mem {operator : Builtin} {run : List Value → Edit Value} (hmem : operator ∈ all)
    (haction : operator.action = .edit run) (operands : List Value) (drawing : Drawing) :
    Effect operator.name operands drawing (run operands drawing) := by
  obtain ⟨other, hother, heffect⟩ := effective_editing operator (mem_editing hmem haction)
  obtain rfl : other = run := by simpa [haction] using hother.symm
  exact heffect operands drawing

variable {operator : Builtin}

/-- An operator on the drawing is done at once and changes nothing else. -/
theorem apply_editing (hmem : operator ∈ editing) (ev : Evaluator) (level : Nat)
    (operands : List Value) (state : State) :
    ∃ outcome drawing, Effect operator.name operands state.drawing (outcome, drawing) ∧
      apply ev level (.builtin operator) operands state =
        .done (halting outcome) { state with drawing } := by
  obtain ⟨run, haction, heffect⟩ := effective_editing operator hmem
  cases hcheck : operator.arity.check operands.length with
  | error error =>
      refine ⟨.error (error.named operator.name), state.drawing, .refused _, ?_⟩
      rw [apply_of_check_error hcheck]
      rfl
  | ok =>
      have hnamed := (heffect operands state.drawing).naming
      rcases hresult : namingEdit operator.name (run operands) state.drawing with ⟨outcome, changed⟩
      rw [hresult] at hnamed
      refine ⟨outcome, changed, hnamed, ?_⟩
      rw [apply_edit hcheck haction]
      unfold Comp.edit
      rw [hresult]
      cases outcome <;> rfl

/-- An operator on the drawing that fails changes nothing, but for a command without a name: that
one fails behind its checkpoint. -/
theorem unchanged_or_nameless (hmem : operator ∈ editing) (ev : Evaluator) (level : Nat)
    (operands : List Value) {state after : State} {halt : Halt}
    (hfails : apply ev level (.builtin operator) operands state = .done (.error halt) after) :
    after = state ∨
      Nameless operator.name operands ∧ halt = .error (.host .emptyCommandName) ∧
        after = { state with drawing := state.drawing.checkpoint "" } := by
  obtain ⟨outcome, drawing, heffect, happly⟩ := apply_editing hmem ev level operands state
  rw [happly] at hfails
  cases heffect with
  | refused error =>
      cases hfails
      exact .inl rfl
  | nameless h =>
      cases hfails
      exact .inr ⟨h, rfl, rfl⟩
  | _ => cases hfails

/-- Deleting from an empty drawing. -/
theorem unchanged_or_nameless_entdel :
    let operator : Builtin := ⟨"ENTDEL", .exactly 1, .edit entdel⟩
    let state : State := { Session.empty with frame := [] }
    ∃ halt after,
      apply (eval 10 10 10) 1 (.builtin operator) [.entity 7] state = .done (.error halt) after ∧
        (after = state ∨
          Nameless operator.name [.entity 7] ∧ halt = .error (.host .emptyCommandName) ∧
            after = { state with drawing := state.drawing.checkpoint "" }) := by
  intro operator state
  have hmem : operator ∈ editing := by simp [operator, editing]
  have happly : apply (eval 10 10 10) 1 (.builtin operator) [.entity 7] =
      .edit (namingEdit "ENTDEL" (entdel [.entity 7])) := apply_edit rfl rfl
  have hfails : apply (eval 10 10 10) 1 (.builtin operator) [.entity 7] state =
      .done (.error (.error (.host (.missingEntity "entdel" 7)))) state := by
    rw [happly]
    rfl
  exact ⟨_, _, hfails, unchanged_or_nameless hmem _ 1 [.entity 7] hfails⟩

/-- A command without a name fails and leaves a checkpoint. -/
theorem nameless_command_marks :
    ¬∀ operator ∈ editing, ∀ ev level operands state halt after,
      apply ev level (.builtin operator) operands state = .done (.error halt) after →
        after.drawing = state.drawing := by
  intro h
  let operator : Builtin := ⟨"COMMAND", .any, .edit command⟩
  let state : State := { Session.empty with frame := [] }
  have hmem : operator ∈ editing := by simp [operator, editing]
  have happly : apply (eval 10 10 10) 1 (.builtin operator) [.string ""] =
      .edit (namingEdit "COMMAND" (command [.string ""])) := apply_edit rfl rfl
  have hfails : apply (eval 10 10 10) 1 (.builtin operator) [.string ""] state =
      .done (.error (.error (.host .emptyCommandName)))
        { state with drawing := state.drawing.checkpoint "" } := by
    rw [happly]
    rfl
  have hsame := h operator hmem _ _ _ _ _ _ hfails
  have hlabels : (#[""] : Array String) = #[] := congrArg Drawing.checkpoints hsame
  cases hlabels

end Builtin

end DraftLisp

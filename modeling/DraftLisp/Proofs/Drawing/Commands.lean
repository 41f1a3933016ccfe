import DraftLisp.Proofs.Drawing.Histories

namespace DraftLisp

/-- The labels of undo steps that are no commands, and the one of a command without a name. -/
def unnamedLabels : List String := ["", "entmake", "entmod", "entdel"]

theorem CommandName.not_mem_unnamedLabels {name : String} (h : CommandName name) :
    name ∉ unnamedLabels := by
  have hlower : ∀ label ∈ unnamedLabels, label = "" ∨ Text.upper label ≠ label := by decide +kernel
  intro hmem
  exact (hlower name hmem).elim h.ne_empty fun hne => hne h.upper

namespace Drawing

def commandLabels (drawing : Drawing) : List String :=
  drawing.checkpoints.toList.filter (· ∉ unnamedLabels)

/-- What a drawing has recorded of commands since it was an earlier one. -/
structure Sends (before after : Drawing) (calls : List CommandCall) : Prop where
  events : after.commands.toList = before.commands.toList ++ calls.flatMap (·.events)
  labels : after.commandLabels = before.commandLabels ++ calls.filterMap (·.name?)

namespace Sends

variable {first second third : Drawing} {calls later : List CommandCall}

theorem of_same (hcommands : second.commands = first.commands)
    (hcheckpoints : second.checkpoints = first.checkpoints) : Sends first second [] where
  events := by simp [hcommands]
  labels := by simp [commandLabels, hcheckpoints]

theorem refl (drawing : Drawing) : Sends drawing drawing [] := of_same rfl rfl

theorem trans (h : Sends first second calls) (h' : Sends second third later) :
    Sends first third (calls ++ later) where
  events := by rw [h'.events, h.events, List.flatMap_append, List.append_assoc]
  labels := by rw [h'.labels, h.labels, List.filterMap_append, List.append_assoc]

end Sends

/-- An undo step that is no command. -/
theorem sends_unnamed {before changed : Drawing} {label change : String}
    {entries : List JournalEntry} (hlabel : label ∈ unnamedLabels)
    (hchanged : Recorded change true entries (before.checkpoint label) changed) :
    Sends before changed.redraw [] where
  events := by
    rw [List.flatMap_nil, List.append_nil]
    exact congrArg Array.toList hchanged.commands
  labels := by
    have hlabels : changed.checkpoints.toList = before.checkpoints.toList ++ [label] :=
      hchanged.checkpoints.trans (by simp [checkpoint, record])
    simp [commandLabels, redraw, record, hlabels, hlabel]

theorem sends_nameless (before : Drawing) : Sends before (before.checkpoint "") [] where
  events := by simp [checkpoint, record]
  labels := by simp [commandLabels, checkpoint, record, unnamedLabels]

theorem sends_carriedOut (before : Drawing) {call : CommandCall}
    (hnamed : ∀ name ∈ call.name?, CommandName name) :
    Sends before (call.carriedOut before) [call] := by
  unfold CommandCall.carriedOut
  split
  · rename_i name hname
    have hlabel := (hnamed name hname).not_mem_unnamedLabels
    constructor
    · simp [redraw, sendAll, record, checkpoint]
    · simp [commandLabels, redraw, sendAll, record, checkpoint, hname, hlabel]
  · rename_i hname
    constructor
    · simp [sendAll]
    · simp [commandLabels, sendAll, hname]

end Drawing

open Drawing

namespace Builtin

variable {operator : String} {operands : List Value} {before : Drawing}
  {result : Except Error Value × Drawing}

/-- A use of an operator sends at most one block, that of its call. -/
theorem Effect.sends (h : Effect operator operands before result) :
    Sends before result.2 [] ∨
      ∃ call, call.From operator operands ∧ Sends before result.2 [call] := by
  cases h with
  | refused error => exact .inl (.refl before)
  | noted value hnoted =>
      cases hnoted with
      | nothing => exact .inl (.refl before)
      | written text _ => exact .inl (.of_same rfl rfl)
      | set name value => exact .inl (.of_same rfl rfl)
  | made value data _ =>
      exact .inl (sends_unnamed (by simp [unnamedLabels]) (recorded_add _ data true))
  | modified value _ hchanged =>
      exact .inl (sends_unnamed (by simp [unnamedLabels]) (recorded_of_update hchanged))
  | deleted value _ hchanged =>
      exact .inl (sends_unnamed (by simp [unnamedLabels]) (recorded_of_remove hchanged))
  | redrawn value _ => exact .inl (.of_same rfl rfl)
  | called value hcall =>
      exact .inr ⟨_, hcall, sends_carriedOut before fun _ hname => hcall.commandName hname⟩
  | nameless _ => exact .inl (sends_nameless before)

theorem action_command : ∀ operator ∈ editing, operator.name = "COMMAND" →
    operator.arity = .any ∧ operator.action = .edit Editing.command := by
  simp [editing]

theorem action_commandAtOnce : ∀ operator ∈ editing, operator.name = "COMMAND-S" →
    operator.arity = .atLeast 1 ∧ operator.action = .edit Editing.commandAtOnce := by
  simp [editing]

theorem apply_edit_of_ok {ev : Evaluator} {level : Nat} {operator : Builtin} {operands : List Value}
    {run : List Value → Edit Value} (hcheck : operator.arity.check operands.length = .ok ())
    (haction : operator.action = .edit run) {state : State} {value : Value} {drawing : Drawing}
    (hrun : run operands state.drawing = (.ok value, drawing)) :
    apply ev level (.builtin operator) operands state =
      .done (.ok value) { state with drawing } := by
  rw [apply_edit hcheck haction]
  unfold Comp.edit namingEdit
  rw [hrun]

/-- An operator carries its call out at once, as one undo step if the command has a name. -/
theorem apply_of_call {operator : Builtin} (hmem : operator ∈ editing) {call : CommandCall}
    {operands : List Value} (h : call.From operator.name operands) (ev : Evaluator) (level : Nat)
    (state : State) :
    ∃ value, apply ev level (.builtin operator) operands state =
      .done (.ok value) { state with drawing := call.carriedOut state.drawing } := by
  cases h with
  | @steps first name arguments hoperator hoperands hread hne =>
      obtain ⟨harity, haction⟩ := action_command operator hmem hoperator
      subst hoperands
      refine ⟨.nil, apply_edit_of_ok (by rw [harity]; rfl) haction ?_⟩
      rw [Editing.command, edit_bind_apply]
      simp only [Editing.lift, hread]
      rw [runSteps_apply, if_neg hne]
  | @atOnce first name arguments hoperator hoperands hread hne =>
      obtain ⟨harity, haction⟩ := action_commandAtOnce operator hmem hoperator
      subst hoperands
      refine ⟨.truth, apply_edit_of_ok (by rw [harity]; rfl) haction ?_⟩
      rw [Editing.commandAtOnce, edit_bind_apply]
      simp only [Editing.operand, List.getElem?_cons_zero, Editing.lift]
      rw [edit_bind_apply]
      simp only [hread]
      exact (runAtOnce_apply name arguments .truth state.drawing).trans (if_neg hne)
  | cancel hoperator hoperands =>
      obtain ⟨harity, haction⟩ := action_command operator hmem hoperator
      subst hoperands
      exact ⟨.nil, apply_edit_of_ok (by rw [harity]; rfl) haction (command_nil _)⟩

end Builtin

/-- The events of a drawing are whole blocks of calls. -/
def Drawing.Blocks (drawing : Drawing) : Prop :=
  ∃ calls : List CommandCall, (∀ call ∈ calls, ∃ operator operands, call.From operator operands) ∧
    Sends .empty drawing calls

theorem Builtin.Effect.blocks {operator : String} {operands : List Value} {before : Drawing}
    {result : Except Error Value × Drawing} (h : Effect operator operands before result)
    (hbefore : before.Blocks) : result.2.Blocks := by
  obtain ⟨calls, hcalls, hsends⟩ := hbefore
  rcases h.sends with hnone | ⟨call, hcall, hone⟩
  · have hsame := hsends.trans hnone
    rw [List.append_nil] at hsame
    exact ⟨calls, hcalls, hsame⟩
  · refine ⟨calls ++ [call], ?_, hsends.trans hone⟩
    simp only [List.mem_append, List.mem_singleton]
    rintro other (hother | rfl)
    · exact hcalls other hother
    · exact ⟨operator, operands, hcall⟩

theorem Drawing.Blocks.writeLog {drawing : Drawing} (h : drawing.Blocks) (text : String)
    (style : LogStyle) : (drawing.writeLog text style).Blocks := by
  obtain ⟨calls, hcalls, hsends⟩ := h
  exact ⟨calls, hcalls, hsends.events, hsends.labels⟩

/-- What commands receive from a session, and from each operator on its drawing. -/
structure Dispatched (config : Config) (batches : List Batch) (last : Batch) : Prop where
  /-- At every point the events are whole blocks of calls, one behind the other, and the checkpoints
  of commands are those of the calls with a name. -/
  blocks : ∃ calls : List CommandCall,
    let drawing :=
      (last.run ((Interpreter.new config).afterBatches batches)).interpreter.session.drawing
    drawing.commands.toList = calls.flatMap (·.events) ∧
      drawing.commandLabels = calls.filterMap (·.name?) ∧
      (∀ call ∈ calls, ∃ operator operands, call.From operator operands) ∧
      (∀ call ∈ calls, ∀ name ∈ call.name?, CommandName name) ∧
      -- The events can be divided in no other way.
      ∀ others : List CommandCall, drawing.commands.toList = others.flatMap (·.events) →
        others.map (·.events) = calls.map (·.events)
  /-- An operator that makes a call carries it out at once, -/
  called : ∀ operator ∈ Builtin.editing, ∀ operands, ∀ call : CommandCall,
    call.From operator.name operands → ∀ ev level state, ∃ value,
      apply ev level (.builtin operator) operands state =
        .done (.ok value) { state with drawing := call.carriedOut state.drawing }
  /-- and one that makes none sends nothing. -/
  idle : ∀ operator ∈ Builtin.editing, ∀ operands,
    (∀ call : CommandCall, ¬call.From operator.name operands) → ∀ ev level state,
      ∃ outcome drawing,
        apply ev level (.builtin operator) operands state = .done outcome { state with drawing } ∧
          drawing.commands = state.drawing.commands ∧
          drawing.commandLabels = state.drawing.commandLabels

/-- Whatever scripts do and however they are carried on and left, commands receive whole blocks. -/
theorem dispatched (config : Config) (batches : List Batch) (last : Batch) :
    Dispatched config batches last where
  blocks := by
    have hkept : (Invariant.ofDrawing Drawing.Blocks).Kept :=
      Invariant.kept_ofDrawing (fun heffect h => heffect.blocks h) ⟨[], by simp, .refl _⟩
        fun text style h => h.writeLog text style
    obtain ⟨calls, hcalls, hsends⟩ := (Invariant.holdsOf_session hkept config batches last).session
    refine ⟨calls, hsends.events, hsends.labels, hcalls, ?_, ?_⟩
    · intro call hcall name hname
      obtain ⟨operator, operands, hfrom⟩ := hcalls call hcall
      exact hfrom.commandName hname
    · intro others hothers
      exact CommandCall.map_events_eq (hothers.symm.trans hsends.events)
  called operator hmem operands call hcall ev level state :=
    Builtin.apply_of_call hmem hcall ev level state
  idle := by
    intro operator hmem operands hnone ev level state
    obtain ⟨outcome, drawing, heffect, happly⟩ :=
      Builtin.apply_editing hmem ev level operands state
    refine ⟨_, drawing, happly, ?_⟩
    rcases heffect.sends with hsends | ⟨call, hcall, -⟩
    · exact ⟨Array.toList_inj.mp (by simpa using hsends.events), by simpa using hsends.labels⟩
    · exact absurd hcall (hnone call)

end DraftLisp

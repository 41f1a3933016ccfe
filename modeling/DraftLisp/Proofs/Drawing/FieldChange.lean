import DraftLisp.Proofs.Drawing.Saved
import DraftLisp.Proofs.Entity.Exchanged
import DraftLisp.Proofs.Evaluation.Given

namespace DraftLisp

open Groups Builtin.Lists Builtin.Editing

/-- What `ENTMOD` does to a drawing when it changes the data of an entity. -/
structure Drawing.Modified (before : Drawing) (id : EntityId) (data : EntityData)
    (after : Drawing) : Prop where
  entities : after.entities = before.entities.map fun entity =>
    if entity.id = id then { data with id } else entity
  ids : after.ids = before.ids
  checkpoints : after.checkpoints = before.checkpoints.push "entmod"
  redraws : after.redraws = before.redraws + 1
  journal : after.journal.toList =
    before.journal.toList ++ [.checkpoint "entmod", .update id, .redraw]
  nextId : after.nextId = before.nextId
  log : after.log = before.log
  commands : after.commands = before.commands
  settings : after.settings = before.settings

theorem Drawing.ids_of_map {before after : Drawing} {id : EntityId} {data : EntityData}
    (h : after.entities = before.entities.map fun entity =>
      if entity.id = id then { data with id } else entity) : after.ids = before.ids := by
  rw [ids, ids, h, Array.toList_map, List.map_map]
  refine List.map_congr_left fun entity _ => ?_
  by_cases hsame : entity.id = id
  · simp [hsame]
  · simp [hsame]

theorem Builtin.Editing.entmod_modified {list : Value} {entity : Entity} {data : EntityData}
    {drawing : Drawing} {id : EntityId} (hid : entityId? list = some id)
    (hentity : drawing.get? id = some entity)
    (hdata : overwrite list entity.toEntityData = .ok data) :
    ∃ after, entmod [list] drawing = (.ok list, after) ∧ drawing.Modified id data after := by
  have hmarked : (drawing.checkpoint "entmod").get? id = some entity := hentity
  obtain ⟨changed, hchanged⟩ := Drawing.update_of_get? hmarked data true
  have happly := entmod_apply list drawing
  simp only [hid, hentity, hdata, hchanged] at happly
  refine ⟨changed.redraw, happly, ?_⟩
  have hentities := (Drawing.stored_of_update hchanged).1
  unfold Drawing.update at hchanged
  split at hchanged
  · cases hchanged
    refine ⟨hentities, Drawing.ids_of_map hentities, rfl, rfl, ?_, rfl, rfl, rfl, rfl⟩
    simp [Drawing.redraw, Drawing.record, Drawing.checkpoint, Drawing.checkpointUnless]
  · cases hchanged

/-- `(ENTMOD (SUBST (LIST code value) (ASSOC code (ENTGET handle)) (ENTGET handle)))` -/
def Form.fieldChange (handle code value : Form) : Form :=
  let description : Form := .list [.symbol "ENTGET", handle]
  .list [.symbol "ENTMOD", .list [.symbol "SUBST", .list [.symbol "LIST", code, value],
    .list [.symbol "ASSOC", code, description], description]]

section Operators

variable {state : State} {level : Nat} {entity : Entity} {first second third : Form}

theorem Form.gives_list {a b : Value} (hfirst : first.Gives state level a)
    (hsecond : second.Gives state level b) :
    Form.Gives state (level + 1) (.list [.symbol "LIST", first, second]) (.list [a, b]) :=
  Form.gives_pure Builtin.lists[7] rfl rfl rfl rfl (.cons hfirst (.cons hsecond .nil)) rfl

theorem Form.gives_assoc {key : Value} {entries : List Value} (hfirst : first.Gives state level key)
    (hsecond : second.Gives state level (.list entries)) :
    Form.Gives state (level + 1) (.list [.symbol "ASSOC", first, second]) (assoc key entries) :=
  Form.gives_pure Builtin.lists[15] rfl rfl rfl rfl (.cons hfirst (.cons hsecond .nil)) rfl

theorem Form.gives_subst {new old : Value} {items : List Value}
    (hfirst : first.Gives state level new) (hsecond : second.Gives state level old)
    (hthird : third.Gives state level (.list items)) :
    Form.Gives state (level + 1) (.list [.symbol "SUBST", first, second, third])
      (substitute new old (.list items)) :=
  Form.gives_pure Builtin.lists[16] rfl rfl rfl rfl
    (.cons hfirst (.cons hsecond (.cons hthird .nil))) rfl

theorem Form.gives_entget (hfirst : first.Gives state level (.entity entity.id))
    (hentity : state.drawing.get? entity.id = some entity) :
    Form.Gives state (level + 1) (.list [.symbol "ENTGET", first]) (describe entity) :=
  Form.gives_call ⟨"ENTGET", .exactly 1, .edit entget⟩ rfl rfl (.cons hfirst .nil)
    fun ev => by
      rw [apply_edit rfl rfl]
      unfold Comp.edit namingEdit
      rw [entget_apply hentity]

end Operators

/-- The description with the new entry in the place of the old one. -/
theorem gives_exchanged {state : State} {level : Nat} {entity : Entity} {code : Int}
    {old new : Value} {handle codeForm valueForm : Form}
    (hhandle : handle.Gives state level (.entity entity.id))
    (hcodeForm : codeForm.Gives state level (.number (Numeric.ofInt code)))
    (hvalueForm : valueForm.Gives state level new)
    (hentity : state.drawing.get? entity.id = some entity) (hused : code ∈ usedCodes)
    (hgiven : given code (fields entity) = [old]) (hold : (old == old) = true) :
    Form.Gives state (level + 3)
      (.list [.symbol "SUBST", .list [.symbol "LIST", codeForm, valueForm],
        .list [.symbol "ASSOC", codeForm, .list [.symbol "ENTGET", handle]],
        .list [.symbol "ENTGET", handle]])
      (.list (((fields entity).map (exchange code new)).map entryOf)) := by
  have hdescription : Form.Gives state (level + 1) (.list [.symbol "ENTGET", handle])
      (.list ((fields entity).map entryOf)) := by
    rw [← describe_eq]
    exact Form.gives_entget hhandle hentity
  have hentry : Form.Gives state (level + 2)
      (.list [.symbol "ASSOC", codeForm, .list [.symbol "ENTGET", handle]]) (entry code old) := by
    rw [← assoc_describe hused hgiven]
    exact Form.gives_assoc (hcodeForm.mono (Nat.le_succ level)) hdescription
  have hpair : Form.Gives state (level + 1) (.list [.symbol "LIST", codeForm, valueForm])
      (entry code new) := Form.gives_list hcodeForm hvalueForm
  have hsubst := Form.gives_subst (hpair.mono (Nat.le_succ _)) hentry
    (hdescription.mono (Nat.le_succ _))
  rwa [← describe_eq, substitute_describe hused hgiven hold] at hsubst

/-- To exchange the only entry with a code in the description of an entity and to write the
description back changes the field with this code, and nothing else of the entity. -/
theorem eval_fieldChange {state : State} {level : Nat} {entity : Entity} {code : Int}
    {old new : Value} {handle codeForm valueForm : Form}
    (hhandle : handle.Gives state level (.entity entity.id))
    (hcodeForm : codeForm.Gives state level (.number (Numeric.ofInt code)))
    (hvalueForm : valueForm.Gives state level new)
    (hentity : state.drawing.get? entity.id = some entity) (hcode : code ∈ entity.shape.codes)
    (hgiven : given code (fields entity) = [old]) (hnan : ∀ x, old = .number x → x.isNaN = false)
    (hadmits : entity.shape.Admits (code, new)) (rounds limit room : Nat)
    (hroom : level + 4 ≤ room) :
    ∃ data after,
      eval rounds limit room 0 (.fieldChange handle codeForm valueForm) state =
        .done (.ok (.list (((fields entity).map (exchange code new)).map entryOf)))
          { state with drawing := after } ∧
      fields { data with id := entity.id } =
        (fields entity).map (exchange code (kept code new)) ∧
      state.drawing.Modified entity.id data after := by
  have hused := codes_usedCodes _ code hcode
  have hstored : (code, old) ∈ fields entity := by simp [← mem_given, hgiven]
  have hold := beq_self_of_admits hcode (admits_fields _ hstored) hnan
  obtain ⟨data, hdata⟩ := exists_exchanged hcode hadmits hgiven
  obtain ⟨after, hdone, hafter⟩ := Builtin.Editing.entmod_modified (entityId?_exchanged hcode)
    hentity (overwrite_exchanged hadmits hused hdata)
  obtain ⟨room, rfl⟩ := Nat.exists_eq_add_of_le' (Nat.le_of_add_left_le hroom)
  have hlist := gives_exchanged hhandle hcodeForm hvalueForm hentity hused hgiven hold
  have hcall : eval rounds limit (room + 4) 0 (.fieldChange handle codeForm valueForm) state = _ :=
    eval_call_gives ⟨"ENTMOD", .exactly 1, .edit entmod⟩ rfl rfl (.cons hlist .nil) rounds limit
      (by omega)
  refine ⟨data, after, hcall.trans ?_, hdata.fields, hafter⟩
  rw [apply_edit rfl rfl]
  unfold Comp.edit namingEdit
  rw [hdone]

/-- The ring, in the variable `E`, and a number of flags that says it is open. -/
def ringState : State :=
  { (default : State) with drawing := ringDrawing, globals := [("E", .entity 1)] }

theorem eval_fieldChange_ring :
    (Form.symbol "E").Gives ringState 1 (.entity ring.id) ∧
      (Form.number (Numeric.ofInt 70)).Gives ringState 1 (.number (Numeric.ofInt 70)) ∧
      (Form.number 4).Gives ringState 1 (.number 4) ∧
      ringState.drawing.get? ring.id = some ring ∧ 70 ∈ ring.shape.codes ∧
      given 70 (fields ring) = [.number 1] ∧
      (∀ x, Value.number 1 = .number x → x.isNaN = false) ∧
      ring.shape.Admits (70, .number 4) ∧
      ∃ data after,
        eval 1 5 5 0
            (.fieldChange (.symbol "E") (.number (Numeric.ofInt 70)) (.number 4)) ringState =
          .done (.ok (.list (((fields ring).map (exchange 70 (.number 4))).map entryOf)))
            { ringState with drawing := after } ∧
        fields { data with id := ring.id } =
          (fields ring).map (exchange 70 (kept 70 (.number 4))) ∧
        ringState.drawing.Modified ring.id data after := by
  have hhandle : (Form.symbol "E").Gives ringState 1 (.entity ring.id) :=
    Form.gives_symbol ringState "E"
  have hcode := Form.gives_number ringState (Numeric.ofInt 70)
  have hvalue := Form.gives_number ringState 4
  have hentity : ringState.drawing.get? ring.id = some ring := get?_ringDrawing
  have hnan : ∀ x, Value.number 1 = .number x → x.isNaN = false := by
    rintro x ⟨⟩
    decide +kernel
  have hadmits : ring.shape.Admits (70, .number 4) := by
    simp [ring, Shape.admits_iff, Shape.textCodes]
  have hcodes : 70 ∈ ring.shape.codes := by simp [ring, Shape.codes, Shape.numberCodes]
  exact ⟨hhandle, hcode, hvalue, hentity, hcodes, rfl, hnan, hadmits,
    eval_fieldChange hhandle hcode hvalue hentity hcodes rfl hnan hadmits 1 5 5
      (Nat.le_refl 5)⟩

end DraftLisp

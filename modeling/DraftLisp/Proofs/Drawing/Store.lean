import DraftLisp.Proofs.Drawing.Sessions

namespace DraftLisp

namespace Drawing

@[simp] theorem get?_checkpoint (drawing : Drawing) (label : String) (id : EntityId) :
    (drawing.checkpoint label).get? id = drawing.get? id :=
  rfl

@[simp] theorem get?_redraw (drawing : Drawing) (id : EntityId) :
    drawing.redraw.get? id = drawing.get? id :=
  rfl

@[simp] theorem entities_checkpointUnless (drawing : Drawing) (skip : Bool) (label : String) :
    (drawing.checkpointUnless skip label).entities = drawing.entities := by
  cases skip <;> rfl

@[simp] theorem nextId_checkpointUnless (drawing : Drawing) (skip : Bool) (label : String) :
    (drawing.checkpointUnless skip label).nextId = drawing.nextId := by
  cases skip <;> rfl

section

variable {drawing after : Drawing} {id : EntityId} {data : EntityData} {skipUndo : Bool}

theorem id_of_get? {entity : Entity} (h : drawing.get? id = some entity) : entity.id = id := by
  simpa using Array.find?_some h

theorem stored_of_update (h : drawing.update id data skipUndo = .ok after) :
    after.entities = (drawing.entities.map fun entity =>
        if entity.id = id then { data with id } else entity) ∧
      after.nextId = drawing.nextId := by
  unfold update at h
  split at h
  · cases h
    simp [record]
  · cases h

theorem get?_of_update {entity : Entity} (hentity : drawing.get? id = some entity)
    (h : drawing.update id data skipUndo = .ok after) (other : EntityId) :
    after.get? other = if other = id then some { data with id } else drawing.get? other := by
  let change (entity : Entity) : Entity := if entity.id = id then { data with id } else entity
  have hid : ∀ entity, (change entity).id = entity.id := by
    intro entity
    by_cases hsame : entity.id = id
    · simp [change, hsame]
    · simp [change, hsame]
  have hget : after.get? other = (drawing.get? other).map change := by
    rw [get?, (stored_of_update h).1, Array.find?_map, get?]
    simp only [Function.comp_def, change] at hid ⊢
    simp only [hid]
  by_cases hother : other = id
  · subst hother
    rw [hget, hentity, if_pos rfl, Option.map_some]
    simp [change, id_of_get? hentity]
  · rw [hget, if_neg hother]
    cases hfound : drawing.get? other with
    | none => rfl
    | some found =>
        have hne : found.id ≠ id := by
          rw [id_of_get? hfound]
          exact hother
        simp [change, hne]

theorem stored_of_remove (h : drawing.remove id skipUndo = .ok after) :
    after.entities = drawing.entities.filter (·.id ≠ id) ∧ after.nextId = drawing.nextId := by
  unfold remove at h
  split at h
  · cases h
    simp [record]
  · cases h

end

theorem foldl_record (entry : Entity → JournalEntry) (gone : List Entity) (drawing : Drawing) :
    gone.foldl (fun rest entity => rest.record (entry entity)) drawing =
      { drawing with journal := drawing.journal ++ gone.map entry } := by
  induction gone generalizing drawing with
  | nil => rfl
  | cons entity rest ih => exact ih (drawing.record (entry entity))

theorem stored_removeMany (drawing : Drawing) (gone : List EntityId) (skipUndo : Bool) :
    (drawing.removeMany gone skipUndo).entities =
        drawing.entities.filter (!gone.contains ·.id) ∧
      (drawing.removeMany gone skipUndo).nextId = drawing.nextId := by
  rw [removeMany, ← Array.foldl_toList, foldl_record]
  simp

theorem stored_add (drawing : Drawing) (data : EntityData) (skipUndo : Bool) :
    (drawing.add data skipUndo).2.entities =
        drawing.entities.push { data with id := drawing.nextId } ∧
      (drawing.add data skipUndo).2.nextId = drawing.nextId + 1 := by
  simp [add, record]

theorem mem_ids_iff {drawing : Drawing} {id : EntityId} :
    id ∈ drawing.ids ↔ ∃ entity ∈ drawing.entities, entity.id = id := by
  simp [ids]

theorem mem_ids_of_filter {before after : Drawing} {keep : Entity → Bool}
    (h : after.entities = before.entities.filter keep) : ∀ id ∈ after.ids, id ∈ before.ids := by
  intro id hid
  obtain ⟨entity, hentity, rfl⟩ := mem_ids_iff.mp hid
  rw [h] at hentity
  exact mem_ids_iff.mpr ⟨entity, (Array.mem_filter.mp hentity).1, rfl⟩

/-- A drawing and the numbers of all entities that were ever added to it, in the order in which they
were added. -/
inductive Issued : List EntityId → Drawing → Prop
  | empty : Issued [] .empty
  | kept {issued : List EntityId} {before after : Drawing} (h : Issued issued before)
      (hentities : after.entities = before.entities) (hnextId : after.nextId = before.nextId) :
      Issued issued after
  | added {issued : List EntityId} {before : Drawing} (h : Issued issued before)
      (data : EntityData) (skipUndo : Bool) :
      Issued (issued ++ [before.nextId]) (before.add data skipUndo).2
  | updated {issued : List EntityId} {before after : Drawing} {id : EntityId} {data : EntityData}
      {skipUndo : Bool} (h : Issued issued before)
      (hafter : before.update id data skipUndo = .ok after) : Issued issued after
  | removed {issued : List EntityId} {before after : Drawing} {id : EntityId} {skipUndo : Bool}
      (h : Issued issued before) (hafter : before.remove id skipUndo = .ok after) :
      Issued issued after
  | removedMany {issued : List EntityId} {before : Drawing} (h : Issued issued before)
      (gone : List EntityId) (skipUndo : Bool) : Issued issued (before.removeMany gone skipUndo)

namespace Issued

variable {issued : List EntityId} {drawing after : Drawing}

/-- Numbers grow. -/
theorem lt_nextId (h : Issued issued drawing) : ∀ id ∈ issued, id < drawing.nextId := by
  induction h with
  | empty => simp
  | kept _ _ hnextId ih =>
      rw [hnextId]
      exact ih
  | @added issued before _ data skipUndo ih =>
      rw [(stored_add before data skipUndo).2]
      intro id hid
      rcases List.mem_append.mp hid with hearlier | hnew
      · exact Nat.lt_succ_of_lt (ih id hearlier)
      · obtain rfl := List.mem_singleton.mp hnew
        exact Nat.lt_succ_self _
  | updated _ hafter ih =>
      rw [(stored_of_update hafter).2]
      exact ih
  | removed _ hafter ih =>
      rw [(stored_of_remove hafter).2]
      exact ih
  | @removedMany issued before _ gone skipUndo ih =>
      rw [(stored_removeMany before gone skipUndo).2]
      exact ih

/-- What is stored was added. -/
theorem mem_of_mem_ids (h : Issued issued drawing) : ∀ id ∈ drawing.ids, id ∈ issued := by
  induction h with
  | empty => simp [ids, Drawing.empty]
  | kept _ hentities _ ih =>
      rw [ids, hentities]
      exact ih
  | @added issued before _ data skipUndo ih =>
      intro id hid
      obtain ⟨entity, hentity, rfl⟩ := mem_ids_iff.mp hid
      rw [(stored_add before data skipUndo).1, Array.mem_push] at hentity
      rcases hentity with hearlier | rfl
      · exact List.mem_append_left _ (ih _ (mem_ids_iff.mpr ⟨entity, hearlier, rfl⟩))
      · exact List.mem_append_right _ List.mem_cons_self
  | @updated issued before after id data skipUndo _ hafter ih =>
      intro other hother
      obtain ⟨entity, hentity, rfl⟩ := mem_ids_iff.mp hother
      rw [(stored_of_update hafter).1, Array.mem_map] at hentity
      obtain ⟨earlier, hearlier, rfl⟩ := hentity
      have hid : (if earlier.id = id then { data with id } else earlier).id = earlier.id := by
        split <;> simp_all
      rw [hid]
      exact ih _ (mem_ids_iff.mpr ⟨earlier, hearlier, rfl⟩)
  | removed _ hafter ih =>
      intro other hother
      exact ih other (mem_ids_of_filter (stored_of_remove hafter).1 other hother)
  | @removedMany issued before _ gone skipUndo ih =>
      intro other hother
      exact ih other (mem_ids_of_filter (stored_removeMany before gone skipUndo).1 other hother)

theorem checkpoint (h : Issued issued drawing) (label : String) :
    Issued issued (drawing.checkpoint label) :=
  h.kept rfl rfl

theorem redraw (h : Issued issued drawing) : Issued issued drawing.redraw :=
  h.kept rfl rfl

theorem of_same (h : Issued issued drawing) (hsame : drawing.SameRecords after) :
    Issued issued after :=
  h.kept hsame.entities hsame.nextId

theorem carriedOut (h : Issued issued drawing) (call : CommandCall) :
    Issued issued (call.carriedOut drawing) := by
  unfold CommandCall.carriedOut
  split
  · exact ((h.checkpoint _).of_same (sameRecords_sendAll _ _)).redraw
  · exact h.of_same (sameRecords_sendAll _ _)

end Issued

end Drawing

open Drawing

/-- Operators change a drawing only as every host may. -/
theorem Builtin.Effect.issued {operator : String} {operands : List Value} {before : Drawing}
    {result : Except Error Value × Drawing} (h : Effect operator operands before result)
    (hbefore : ∃ issued, Issued issued before) : ∃ issued, Issued issued result.2 := by
  obtain ⟨issued, hissued⟩ := hbefore
  cases h with
  | refused error => exact ⟨_, hissued⟩
  | noted value hnoted => exact ⟨_, hissued.of_same hnoted.same⟩
  | made value data _ => exact ⟨_, ((hissued.checkpoint _).added data true).redraw⟩
  | modified value _ hchanged => exact ⟨_, ((hissued.checkpoint _).updated hchanged).redraw⟩
  | deleted value _ hchanged => exact ⟨_, ((hissued.checkpoint _).removed hchanged).redraw⟩
  | redrawn value _ => exact ⟨_, hissued.redraw⟩
  | called value _ => exact ⟨_, hissued.carriedOut _⟩
  | nameless _ => exact ⟨_, hissued.checkpoint ""⟩

/-- Every drawing of every session comes about by changes that a host may make. -/
theorem issued_session (config : Config) (batches : List Batch) (last : Batch) :
    let execution := last.run ((Interpreter.new config).afterBatches batches)
    ∃ issued, Issued issued execution.interpreter.session.drawing := by
  have hkept : (Invariant.ofDrawing fun drawing => ∃ issued, Issued issued drawing).Kept :=
    Invariant.kept_ofDrawing (fun heffect h => heffect.issued h) ⟨_, .empty⟩ fun text style h =>
      h.imp fun _ hissued => hissued.of_same (sameRecords_writeLog _ text style)
  exact (Invariant.holdsOf_session hkept config batches last).session

end DraftLisp

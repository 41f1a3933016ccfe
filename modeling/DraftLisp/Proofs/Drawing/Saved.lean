import DraftLisp.Proofs.Drawing.Store
import DraftLisp.Proofs.Entity.Described

namespace DraftLisp

namespace Builtin.Editing

open Groups

variable {drawing : Drawing} {id : EntityId} {entity : Entity}

theorem entget_apply (h : drawing.get? id = some entity) :
    entget [.entity id] drawing = (.ok (describe entity), drawing) := by
  change (Except.ok (Value.ofOption ((drawing.get? id).map describe)), drawing) = _
  rw [h]
  rfl

theorem entmake_apply {list : Value} {data : EntityData}
    (h : create list drawing.currentLayer = .ok data) :
    entmake [list] drawing =
      (.ok list, ((drawing.checkpoint "entmake").add data true).2.redraw) := by
  have hcreate : lift (create list drawing.currentLayer) drawing = (.ok data, drawing) := by
    rw [h]
    rfl
  change ((lift (create list drawing.currentLayer) >>= fun data => _) drawing) = _
  rw [edit_bind_apply, hcreate]
  rfl

theorem existing_apply (operator : String) (id : EntityId) (drawing : Drawing) :
    existing operator id drawing =
      match drawing.get? id with
      | some entity => (.ok entity, drawing)
      | none => (.error (.host (.missingEntity operator id)), drawing) := by
  unfold existing
  rw [edit_bind_apply]
  simp only [ask]
  cases drawing.get? id <;> rfl

theorem entmod_apply (list : Value) (drawing : Drawing) :
    entmod [list] drawing =
      match entityId? list with
      | none => (.error (.type (.noEntityName list)), drawing)
      | some id =>
        match drawing.get? id with
        | none => (.error (.host (.missingEntity "entmod" id)), drawing)
        | some entity =>
          match overwrite list entity.toEntityData with
          | .error error => (.error error, drawing)
          | .ok data =>
            match (drawing.checkpoint "entmod").update id data true with
            | .ok changed => (.ok list, changed.redraw)
            | .error fault => (.error (.host fault), drawing.checkpoint "entmod") := by
  have hoperand : operand [list] 0 drawing = (.ok list, drawing) := rfl
  unfold entmod
  rw [edit_bind_apply, hoperand]
  simp only
  cases entityId? list with
  | none => rfl
  | some id =>
      simp only
      rw [edit_bind_apply, existing_apply]
      cases drawing.get? id with
      | none => rfl
      | some entity =>
          simp only
          rw [edit_bind_apply, lift]
          cases overwrite list entity.toEntityData with
          | error error => rfl
          | ok data =>
              simp only
              rw [edit_bind_apply, undoStep_attempt]
              cases (drawing.checkpoint "entmod").update id data true <;> rfl

/-- `ENTMOD` changes nothing, or it overwrites the stored entity that its list names. -/
theorem entmod_cases (list : Value) (drawing : Drawing) :
    (∃ error, entmod [list] drawing = (.error error, drawing)) ∨
      ∃ id entity data changed, entityId? list = some id ∧ drawing.get? id = some entity ∧
        overwrite list entity.toEntityData = .ok data ∧
        (drawing.checkpoint "entmod").update id data true = .ok changed ∧
        entmod [list] drawing = (.ok list, changed.redraw) := by
  have happly := entmod_apply list drawing
  cases hid : entityId? list with
  | none =>
      rw [hid] at happly
      exact .inl ⟨_, happly⟩
  | some id =>
      cases hentity : drawing.get? id with
      | none =>
          simp only [hid, hentity] at happly
          exact .inl ⟨_, happly⟩
      | some entity =>
          simp only [hid, hentity] at happly
          cases hdata : overwrite list entity.toEntityData with
          | error error =>
              rw [hdata] at happly
              exact .inl ⟨_, happly⟩
          | ok data =>
              obtain ⟨changed, hchanged⟩ :=
                (drawing.checkpoint "entmod").update_of_get? hentity data true
              simp only [hdata, hchanged] at happly
              exact .inr ⟨id, entity, data, changed, rfl, hentity, hdata, hchanged, happly⟩

/-- What becomes of the stored entities when a list is written over the one that it names. -/
theorem get?_entmod {list : Value} {data : EntityData} (hid : entityId? list = some id)
    (hentity : drawing.get? id = some entity)
    (hdata : overwrite list entity.toEntityData = .ok data) :
    ∃ after, entmod [list] drawing = (.ok list, after) ∧ after.get? id = some { data with id } ∧
      ∀ other, other ≠ id → after.get? other = drawing.get? other := by
  have hmarked : (drawing.checkpoint "entmod").get? id = some entity := hentity
  obtain ⟨changed, hchanged⟩ := Drawing.update_of_get? hmarked data true
  have happly := entmod_apply list drawing
  simp only [hid, hentity, hdata, hchanged] at happly
  have hget := Drawing.get?_of_update hmarked hchanged
  refine ⟨changed.redraw, happly, ?_, fun other hother => ?_⟩
  · rw [Drawing.get?_redraw, hget, if_pos rfl]
  · rw [Drawing.get?_redraw, hget, if_neg hother, Drawing.get?_checkpoint]

/-- `ENTMOD` keeps an entity, and its type. -/
theorem typeName_entmod (list : Value) (hentity : drawing.get? id = some entity) :
    ∃ current, (entmod [list] drawing).2.get? id = some current ∧
      current.shape.typeName = entity.shape.typeName := by
  rcases entmod_cases list drawing with
    ⟨error, hrefused⟩ | ⟨target, old, data, changed, -, hold, hdata, hchanged, hdone⟩
  · rw [hrefused]
    exact ⟨entity, hentity, rfl⟩
  · have hmarked : (drawing.checkpoint "entmod").get? target = some old := hold
    have hget := Drawing.get?_of_update hmarked hchanged id
    rw [hdone]
    by_cases hsame : id = target
    · subst hsame
      obtain rfl : entity = old := Option.some.inj (hentity.symm.trans hold)
      exact ⟨{ data with id }, by rw [Drawing.get?_redraw, hget, if_pos rfl],
        typeName_of_overwrite hdata⟩
    · refine ⟨entity, ?_, rfl⟩
      rw [Drawing.get?_redraw, hget, if_neg hsame, Drawing.get?_checkpoint, hentity]

end Builtin.Editing

open Builtin.Editing Groups

/-- The drawing after `ENTMOD` of some lists, one after the other, whether they succeed or fail. -/
def Drawing.modifiedBy (drawing : Drawing) (lists : List Value) : Drawing :=
  lists.foldl (fun drawing list => (entmod [list] drawing).2) drawing

theorem Drawing.typeName_modifiedBy {drawing : Drawing} {id : EntityId} {entity : Entity}
    (h : drawing.get? id = some entity) (lists : List Value) :
    ∃ current, (drawing.modifiedBy lists).get? id = some current ∧
      current.shape.typeName = entity.shape.typeName := by
  induction lists generalizing drawing entity with
  | nil => exact ⟨entity, h, rfl⟩
  | cons list rest ih =>
      obtain ⟨next, hnext, htype⟩ := typeName_entmod list h
      obtain ⟨current, hcurrent, hsame⟩ := ih hnext
      exact ⟨current, hcurrent, hsame.trans htype⟩

/-- A polyline without vertices has none to put back. -/
theorem not_describe_restores :
    ¬∀ (entity : Entity) (data : EntityData), data.shape.typeName = entity.shape.typeName →
      overwriting (describe entity) data = (entity.toEntityData, none) := by
  intro h
  let entity : Entity := ⟨⟨"0", .polyline [] false⟩, 1⟩
  let data : EntityData := ⟨"A", .polyline [⟨1, 2⟩] true⟩
  have hover : overwriting (describe entity) data = (entity.toEntityData.over data, none) :=
    overwriting_describe rfl
  have hrestored := hover.symm.trans (h entity data rfl)
  cases hrestored

/-- A description that is written over the data of an entity of the same type replaces all of it,
but a polyline without vertices leaves those that are there. So a description that a script has
saved restores the entity after any number of changes with `ENTMOD`, and no other entity. -/
theorem describe_restores :
    (∀ (entity : Entity) (data : EntityData), data.shape.typeName = entity.shape.typeName →
        overwriting (describe entity) data = (entity.toEntityData.over data, none)) ∧
      ∀ (drawing : Drawing) (id : EntityId) (entity : Entity), drawing.get? id = some entity →
        entget [.entity id] drawing = (.ok (describe entity), drawing) ∧
        ∀ lists : List Value, ∃ current after,
          (drawing.modifiedBy lists).get? id = some current ∧
          entmod [describe entity] (drawing.modifiedBy lists) = (.ok (describe entity), after) ∧
          after.get? id = some { entity.toEntityData.over current.toEntityData with id } ∧
          ∀ other, other ≠ id → after.get? other = (drawing.modifiedBy lists).get? other := by
  refine ⟨fun entity data => overwriting_describe, fun drawing id entity hentity => ?_⟩
  refine ⟨entget_apply hentity, fun lists => ?_⟩
  -- No list changes the type, so that the description still fits.
  obtain ⟨current, hcurrent, htype⟩ := Drawing.typeName_modifiedBy hentity lists
  have hid : entityId? (describe entity) = some id := by
    rw [entityId?_describe, Drawing.id_of_get? hentity]
  obtain ⟨after, hdone, hrestored, hothers⟩ := get?_entmod hid hcurrent (overwrite_describe htype)
  exact ⟨current, after, hcurrent, hdone, hrestored, hothers⟩

/-- A closed polyline on a layer that is not the current one. -/
def ring : Entity := ⟨⟨"walls", .polyline [⟨0, 0⟩, ⟨4, 0⟩, ⟨4, 3⟩] true⟩, 1⟩

/-- What becomes of it in between. -/
def flattened : EntityData := ⟨"0", .polyline [⟨7, 7⟩] false⟩

def ringDrawing : Drawing := (Drawing.empty.add ring.toEntityData true).2

theorem get?_ringDrawing : ringDrawing.get? 1 = some ring := rfl

theorem describe_restores_ring :
    flattened.shape.typeName = ring.shape.typeName ∧
      overwriting (describe ring) flattened = (ring.toEntityData.over flattened, none) ∧
      ringDrawing.get? 1 = some ring ∧
      entget [.entity 1] ringDrawing = (.ok (describe ring), ringDrawing) ∧
      ∃ current after,
        (ringDrawing.modifiedBy [describe { flattened with id := 1 }]).get? 1 = some current ∧
        entmod [describe ring] (ringDrawing.modifiedBy [describe { flattened with id := 1 }]) =
          (.ok (describe ring), after) ∧
        after.get? 1 = some { ring.toEntityData.over current.toEntityData with id := 1 } ∧
        ∀ other, other ≠ 1 → after.get? other =
          (ringDrawing.modifiedBy [describe { flattened with id := 1 }]).get? other := by
  obtain ⟨hget, hrestored⟩ := describe_restores.2 ringDrawing 1 ring get?_ringDrawing
  exact ⟨rfl, describe_restores.1 ring flattened rfl, get?_ringDrawing, hget,
    hrestored [describe { flattened with id := 1 }]⟩

/-- A new entity from a description has the layer and the shape described, whatever layer new
entities get. So a stored entity that is made again from its description has an exact copy behind
all others, with a number higher than every number ever issued. -/
theorem describe_copies :
    (∀ (entity : Entity) (layer : String),
        create (describe entity) layer = .ok entity.toEntityData) ∧
      ∀ (issued : List EntityId) (drawing : Drawing), Drawing.Issued issued drawing →
        ∀ (id : EntityId) (entity : Entity), drawing.get? id = some entity →
          entget [.entity id] drawing = (.ok (describe entity), drawing) ∧
          ∃ after, entmake [describe entity] drawing = (.ok (describe entity), after) ∧
            after.entities = drawing.entities.push { entity with id := drawing.nextId } ∧
            (∀ earlier ∈ issued, earlier < drawing.nextId) ∧
            ∀ live ∈ drawing.ids, live ∈ issued := by
  refine ⟨create_describe, fun issued drawing hissued id entity hentity => ?_⟩
  refine ⟨entget_apply hentity, _, entmake_apply (create_describe entity _), ?_,
    hissued.lt_nextId, hissued.mem_of_mem_ids⟩
  exact (Drawing.stored_add _ entity.toEntityData true).1

/-- The ring, beside a note that has come and gone. -/
def tidiedDrawing : Drawing :=
  ((ringDrawing.add ⟨"0", .text .origin 2.5 0 "note"⟩ true).2).removeMany [2] true

theorem issued_tidiedDrawing : Drawing.Issued [1, 2] tidiedDrawing :=
  .removedMany (.added (.added .empty ring.toEntityData true) _ true) [2] true

theorem describe_copies_ring :
    Drawing.Issued [1, 2] tidiedDrawing ∧ tidiedDrawing.get? 1 = some ring ∧
      entget [.entity 1] tidiedDrawing = (.ok (describe ring), tidiedDrawing) ∧
      ∃ after, entmake [describe ring] tidiedDrawing = (.ok (describe ring), after) ∧
        after.entities = tidiedDrawing.entities.push { ring with id := tidiedDrawing.nextId } ∧
        (∀ earlier ∈ [1, 2], earlier < tidiedDrawing.nextId) ∧
        ∀ live ∈ tidiedDrawing.ids, live ∈ [1, 2] := by
  have hget : tidiedDrawing.get? 1 = some ring := rfl
  exact ⟨issued_tidiedDrawing, hget,
    describe_copies.2 [1, 2] tidiedDrawing issued_tidiedDrawing 1 ring hget⟩

end DraftLisp

import Mathlib.Data.List.Induction
import DraftLisp.Proofs.Drawing.Journal
import DraftLisp.Proofs.Drawing.Store

namespace DraftLisp.Drawing

/-- What a host may do to the entities of a drawing. -/
inductive Operation where
  | add (data : EntityData) (skipUndo : Bool)
  | update (id : EntityId) (data : EntityData) (skipUndo : Bool)
  | remove (id : EntityId) (skipUndo : Bool)
  | removeMany (ids : List EntityId) (skipUndo : Bool)

inductive Reply where
  | issued (id : EntityId)
  | done
  | refused (fault : HostFault)

def Reply.issued? : Reply → Option EntityId
  | .issued id => some id
  | _ => none

/-- An operation that is refused leaves the drawing as it was. -/
def operate (drawing : Drawing) : Operation → Reply × Drawing
  | .add data skipUndo =>
      let (id, next) := drawing.add data skipUndo
      (.issued id, next)
  | .update id data skipUndo =>
      match drawing.update id data skipUndo with
      | .ok next => (.done, next)
      | .error fault => (.refused fault, drawing)
  | .remove id skipUndo =>
      match drawing.remove id skipUndo with
      | .ok next => (.done, next)
      | .error fault => (.refused fault, drawing)
  | .removeMany ids skipUndo => (.done, drawing.removeMany ids skipUndo)

def operateAll (drawing : Drawing) (operations : List Operation) : Drawing :=
  operations.foldl (fun drawing operation => (drawing.operate operation).2) drawing

def after (history : List Operation) : Drawing := empty.operateAll history

/-- The numbers that operations issue one after the other. -/
def issuedBy (drawing : Drawing) : List Operation → List EntityId
  | [] => []
  | operation :: rest =>
      (drawing.operate operation).1.issued?.toList ++ (drawing.operate operation).2.issuedBy rest

def issued (history : List Operation) : List EntityId := empty.issuedBy history

theorem operateAll_append (drawing : Drawing) (first second : List Operation) :
    drawing.operateAll (first ++ second) = (drawing.operateAll first).operateAll second :=
  List.foldl_append

theorem issuedBy_append (drawing : Drawing) (first second : List Operation) :
    drawing.issuedBy (first ++ second) =
      drawing.issuedBy first ++ (drawing.operateAll first).issuedBy second := by
  induction first generalizing drawing with
  | nil => rfl
  | cons operation rest ih =>
      rw [List.cons_append, issuedBy, issuedBy, ih, List.append_assoc]
      rfl

theorem after_concat (history : List Operation) (operation : Operation) :
    after (history ++ [operation]) = ((after history).operate operation).2 :=
  operateAll_append empty history [operation]

theorem issued_concat (history : List Operation) (operation : Operation) :
    issued (history ++ [operation]) =
      issued history ++ ((after history).operate operation).1.issued?.toList := by
  refine (issuedBy_append empty history [operation]).trans ?_
  exact congrArg (issued history ++ ·) (List.append_nil _)

section

variable {drawing next : Drawing} {id : EntityId} {data : EntityData} {skipUndo : Bool}

theorem ids_add (drawing : Drawing) (data : EntityData) (skipUndo : Bool) :
    (drawing.add data skipUndo).2.ids = drawing.ids ++ [drawing.nextId] := by
  rw [ids, (stored_add drawing data skipUndo).1, Array.toList_push, List.map_append]
  rfl

theorem ids_of_update (h : drawing.update id data skipUndo = .ok next) :
    next.ids = drawing.ids := by
  rw [ids, (stored_of_update h).1, Array.toList_map, List.map_map]
  refine List.map_congr_left fun entity _ => ?_
  by_cases hid : entity.id = id
  · simp [hid]
  · simp [hid]

theorem ids_filter {keep : EntityId → Bool}
    (h : next.entities = drawing.entities.filter (keep ·.id)) :
    next.ids = drawing.ids.filter keep := by
  rw [ids, ids, h, Array.toList_filter, List.filter_map]
  rfl

theorem ids_of_remove (h : drawing.remove id skipUndo = .ok next) :
    next.ids = drawing.ids.filter (· ≠ id) :=
  ids_filter (stored_of_remove h).1

theorem ids_removeMany (drawing : Drawing) (gone : List EntityId) (skipUndo : Bool) :
    (drawing.removeMany gone skipUndo).ids = drawing.ids.filter (!gone.contains ·) :=
  ids_filter (stored_removeMany drawing gone skipUndo).1

theorem any_iff_mem_ids : drawing.entities.any (·.id = id) ↔ id ∈ drawing.ids := by
  rw [mem_ids_iff, Array.any_eq_true']
  simp

theorem update_cases (drawing : Drawing) (id : EntityId) (data : EntityData) (skipUndo : Bool) :
    id ∉ drawing.ids ∧ drawing.update id data skipUndo = .error (.unknownId id) ∨
      id ∈ drawing.ids ∧ ∃ next, drawing.update id data skipUndo = .ok next := by
  by_cases h : drawing.entities.any (·.id = id)
  · exact .inr ⟨any_iff_mem_ids.mp h, _, if_pos h⟩
  · exact .inl ⟨fun hmem => h (any_iff_mem_ids.mpr hmem), if_neg h⟩

theorem remove_cases (drawing : Drawing) (id : EntityId) (skipUndo : Bool) :
    id ∉ drawing.ids ∧ drawing.remove id skipUndo = .error (.unknownId id) ∨
      id ∈ drawing.ids ∧ ∃ next, drawing.remove id skipUndo = .ok next := by
  by_cases h : drawing.entities.any (·.id = id)
  · exact .inr ⟨any_iff_mem_ids.mp h, _, if_pos h⟩
  · exact .inl ⟨fun hmem => h (any_iff_mem_ids.mpr hmem), if_neg h⟩

end

/-- All that one operation can do to the numbers of the stored entities and to the next number. -/
inductive Renumbers (drawing : Drawing) : Reply × Drawing → Prop
  | grown {next : Drawing} (hids : next.ids = drawing.ids ++ [drawing.nextId])
      (hnextId : next.nextId = drawing.nextId + 1) :
      Renumbers drawing (.issued drawing.nextId, next)
  | thinned {reply : Reply} {next : Drawing} (hreply : reply.issued? = none)
      (hids : next.ids.Sublist drawing.ids) (hnextId : next.nextId = drawing.nextId) :
      Renumbers drawing (reply, next)

theorem renumbers_operate (drawing : Drawing) (operation : Operation) :
    Renumbers drawing (drawing.operate operation) := by
  cases operation with
  | add data skipUndo =>
      exact .grown (ids_add drawing data skipUndo) (stored_add drawing data skipUndo).2
  | update id data skipUndo =>
      rcases drawing.update_cases id data skipUndo with ⟨-, hrefused⟩ | ⟨-, next, hdone⟩
      · simp only [operate, hrefused]
        exact .thinned rfl (List.Sublist.refl _) rfl
      · simp only [operate, hdone]
        exact .thinned rfl (ids_of_update hdone ▸ List.Sublist.refl _) (stored_of_update hdone).2
  | remove id skipUndo =>
      rcases drawing.remove_cases id skipUndo with ⟨-, hrefused⟩ | ⟨-, next, hdone⟩
      · simp only [operate, hrefused]
        exact .thinned rfl (List.Sublist.refl _) rfl
      · simp only [operate, hdone]
        refine .thinned rfl ?_ (stored_of_remove hdone).2
        rw [ids_of_remove hdone]
        exact List.filter_sublist
  | removeMany gone skipUndo =>
      refine .thinned rfl ?_ (stored_removeMany drawing gone skipUndo).2
      rw [ids_removeMany]
      exact List.filter_sublist

/-- The numbers are counted from one, and those of the stored entities are in ascending order. -/
structure Numbered (issued : List EntityId) (drawing : Drawing) : Prop where
  counted : issued = List.range' 1 issued.length
  nextId : drawing.nextId = issued.length + 1
  ascending : drawing.ids.Pairwise (· < ·)
  stored : ∀ id ∈ drawing.ids, id ∈ issued

namespace Numbered

variable {issued : List EntityId} {drawing : Drawing}

theorem lt_nextId (h : Numbered issued drawing) {id : EntityId} (hid : id ∈ issued) :
    id < drawing.nextId := by
  rw [h.counted, List.mem_range'_1] at hid
  rw [h.nextId, Nat.add_comm]
  exact hid.2

theorem operate (h : Numbered issued drawing) (operation : Operation) :
    Numbered (issued ++ (drawing.operate operation).1.issued?.toList)
      (drawing.operate operation).2 := by
  have hrenumbers := drawing.renumbers_operate operation
  generalize drawing.operate operation = result at hrenumbers ⊢
  cases hrenumbers with
  | @grown next hids hnextId =>
      constructor
      · simp only [Reply.issued?, Option.toList_some, List.length_append, List.length_singleton]
        rw [← List.range'_append, ← h.counted, h.nextId, Nat.one_mul, Nat.add_comm 1]
        rfl
      · simp [hnextId, h.nextId, Reply.issued?]
      · rw [hids, List.pairwise_append]
        refine ⟨h.ascending, List.pairwise_singleton _ _, ?_⟩
        simp only [List.mem_singleton]
        rintro earlier hearlier _ rfl
        exact h.lt_nextId (h.stored earlier hearlier)
      · rw [hids]
        intro id hid
        rcases List.mem_append.mp hid with hold | hnew
        · exact List.mem_append_left _ (h.stored id hold)
        · exact List.mem_append_right _ hnew
  | thinned hreply hids hnextId =>
      rw [hreply, Option.toList_none, List.append_nil]
      exact ⟨h.counted, hnextId.trans h.nextId, h.ascending.sublist hids,
        fun id hid => h.stored id (hids.subset hid)⟩

end Numbered

theorem numbered_after (history : List Operation) : Numbered (issued history) (after history) := by
  induction history using List.reverseRecOn with
  | nil => exact ⟨rfl, rfl, .nil, by simp [after, operateAll, ids, empty]⟩
  | append_singleton history operation ih =>
      rw [after_concat, issued_concat]
      exact ih.operate operation

theorem length_issuedBy_le (drawing : Drawing) (operations : List Operation) :
    (drawing.issuedBy operations).length ≤ operations.length := by
  induction operations generalizing drawing with
  | nil => exact Nat.le_refl 0
  | cons operation rest ih =>
      have hrest := ih (drawing.operate operation).2
      have hone : (drawing.operate operation).1.issued?.toList.length ≤ 1 := by
        cases (drawing.operate operation).1.issued? <;> simp
      rw [issuedBy, List.length_append, List.length_cons]
      omega

/-- A number that is below the next one and not in use stays out of use. -/
theorem not_mem_ids_operateAll {drawing : Drawing} {id : EntityId} (hlt : id < drawing.nextId)
    (hgone : id ∉ drawing.ids) (operations : List Operation) :
    id ∉ (drawing.operateAll operations).ids := by
  induction operations generalizing drawing with
  | nil => exact hgone
  | cons operation rest ih =>
      have hrenumbers := drawing.renumbers_operate operation
      change id ∉ ((drawing.operate operation).2.operateAll rest).ids
      generalize drawing.operate operation = result at hrenumbers ⊢
      cases hrenumbers with
      | grown hids hnextId =>
          refine ih (hnextId ▸ Nat.lt_succ_of_lt hlt) ?_
          rw [hids, List.mem_append, List.mem_singleton]
          rintro (hold | rfl)
          · exact hgone hold
          · exact Nat.lt_irrefl _ hlt
      | thinned hreply hids hnextId =>
          exact ih (hnextId ▸ hlt) fun hmem => hgone (hids.subset hmem)

/-- What an operation leaves beside the entities: a checkpoint, unless it is to be skipped, and some
entries in the journal. -/
structure Recorded (label : String) (skipUndo : Bool) (entries : List JournalEntry)
    (before after : Drawing) : Prop where
  checkpoints : after.checkpoints.toList =
    before.checkpoints.toList ++ if skipUndo then [] else [label]
  journal : after.entries =
    before.entries ++ (if skipUndo then [] else [.checkpoint label]) ++ entries
  redraws : after.redraws = before.redraws
  log : after.log = before.log
  commands : after.commands = before.commands
  settings : after.settings = before.settings

/-- A change of nothing but the entities, between the checkpoint and the entries. -/
theorem recorded (drawing : Drawing) (label : String) (skipUndo : Bool)
    (made : List JournalEntry) (entities : Array Entity) (nextId : EntityId) :
    let marked := drawing.checkpointUnless skipUndo label
    Recorded label skipUndo made drawing
      { marked with entities, nextId, journal := marked.journal ++ made } := by
  cases skipUndo
  · exact ⟨Array.toList_push, by simp [entries, checkpointUnless, checkpoint, record], rfl, rfl,
      rfl, rfl⟩
  · exact ⟨(List.append_nil _).symm, by simp [entries, checkpointUnless], rfl, rfl, rfl, rfl⟩

section

variable (drawing : Drawing) {next : Drawing} {id : EntityId} {data : EntityData} {skipUndo : Bool}

theorem recorded_add (data : EntityData) (skipUndo : Bool) :
    Recorded "add" skipUndo [.add drawing.nextId] drawing (drawing.add data skipUndo).2 :=
  drawing.recorded "add" skipUndo _ _ _

variable {drawing}

theorem recorded_of_update (h : drawing.update id data skipUndo = .ok next) :
    Recorded "update" skipUndo [.update id] drawing next := by
  unfold update at h
  split at h
  · cases h
    exact drawing.recorded "update" skipUndo _ _ _
  · cases h

theorem recorded_of_remove (h : drawing.remove id skipUndo = .ok next) :
    Recorded "remove" skipUndo [.remove id] drawing next := by
  unfold remove at h
  split at h
  · cases h
    exact drawing.recorded "remove" skipUndo _ _ _
  · cases h

/-- Entities that go together are noted in the order in which they were stored. -/
theorem recorded_removeMany (drawing : Drawing) (gone : List EntityId) (skipUndo : Bool) :
    Recorded "remove" skipUndo ((drawing.ids.filter (gone.contains ·)).map .remove) drawing
      (drawing.removeMany gone skipUndo) := by
  rw [removeMany, ← Array.foldl_toList, foldl_record]
  convert drawing.recorded "remove" skipUndo _ _ _ using 3
  simp [ids, List.filter_map, Function.comp_def]

end

end DraftLisp.Drawing

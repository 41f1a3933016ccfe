import DraftLisp.Proofs.Drawing.Sessions

namespace DraftLisp

namespace JournalEntry

/-- The stored entities behind an entry. -/
def applyTo (ids : List EntityId) : JournalEntry → List EntityId
  | .add id => ids ++ [id]
  | .remove id => ids.filter (· ≠ id)
  | _ => ids

/-- The entities that are stored once all entries are made, oldest first. -/
def replay (entries : List JournalEntry) : List EntityId := entries.foldl applyTo []

@[simp] theorem replay_concat (entries : List JournalEntry) (entry : JournalEntry) :
    replay (entries ++ [entry]) = entry.applyTo (replay entries) := by
  simp [replay]

theorem filterMap_concat (view : JournalEntry → Option α) (entries : List JournalEntry)
    (entry : JournalEntry) :
    (entries ++ [entry]).filterMap view = entries.filterMap view ++ (view entry).toList := by
  rw [List.filterMap_append]
  cases hview : view entry <;> simp [hview]

def label? : JournalEntry → Option String
  | .checkpoint label => some label
  | _ => none

def added? : JournalEntry → Option EntityId
  | .add id => some id
  | _ => none

/-- The stored entity that an entry is about. -/
def target? : JournalEntry → Option EntityId
  | .update id | .remove id => some id
  | _ => none

end JournalEntry

open JournalEntry

namespace Drawing

abbrev entries (drawing : Drawing) : List JournalEntry := drawing.journal.toList

/-- The records of a drawing agree with its journal. -/
structure Booked (drawing : Drawing) : Prop where
  checkpoints : drawing.checkpoints.toList = drawing.entries.filterMap label?
  redraws : drawing.redraws = drawing.entries.count .redraw
  /-- Entities are numbered from one in the order in which they are added. -/
  added : drawing.entries.filterMap added? =
    List.range' 1 (drawing.entries.filterMap added?).length
  nextId : drawing.nextId = (drawing.entries.filterMap added?).length + 1
  /-- Only entities that are stored are changed. -/
  stored : ∀ {before entry id}, before ++ [entry] <+: drawing.entries → entry.target? = some id →
    id ∈ replay before
  ids : drawing.ids = replay drawing.entries

theorem booked_empty : empty.Booked where
  checkpoints := rfl
  redraws := rfl
  added := rfl
  nextId := rfl
  stored h := absurd (List.prefix_nil.mp h) (by simp)
  ids := rfl

variable {drawing : Drawing}

namespace Booked

theorem of_same {after : Drawing} (h : drawing.Booked) (hsame : drawing.SameRecords after) :
    after.Booked where
  checkpoints := by rw [hsame.checkpoints, entries, hsame.journal]; exact h.checkpoints
  redraws := by rw [hsame.redraws, entries, hsame.journal]; exact h.redraws
  added := by rw [entries, hsame.journal]; exact h.added
  nextId := by rw [hsame.nextId, entries, hsame.journal]; exact h.nextId
  stored := by rw [entries, hsame.journal]; exact h.stored
  ids := by rw [Drawing.ids, hsame.entities, entries, hsame.journal]; exact h.ids

theorem stored_concat (h : drawing.Booked) {last : JournalEntry}
    (hlast : ∀ id, last.target? = some id → id ∈ drawing.ids) {before : List JournalEntry}
    {entry : JournalEntry} {id : EntityId}
    (hinitial : before ++ [entry] <+: drawing.entries ++ [last])
    (htarget : entry.target? = some id) : id ∈ replay before := by
  rcases List.prefix_concat_iff.mp hinitial with heq | hearlier
  · obtain ⟨rfl, hentry⟩ := List.append_inj' heq rfl
    obtain rfl : entry = last := by simpa using hentry
    rw [← h.ids]
    exact hlast id htarget
  · exact h.stored hearlier htarget

/-- One more entry, and the records that it calls for. -/
theorem concat (h : drawing.Booked) {after : Drawing} (last : JournalEntry)
    (hentries : after.entries = drawing.entries ++ [last])
    (hcheckpoints : after.checkpoints.toList = drawing.checkpoints.toList ++ last.label?.toList)
    (hredraws : after.redraws = drawing.redraws + [last].count .redraw)
    (hadded : ∀ id ∈ last.added?, id = drawing.nextId)
    (hnextId : after.nextId = drawing.nextId + last.added?.toList.length)
    (hstored : ∀ id, last.target? = some id → id ∈ drawing.ids)
    (hids : after.ids = last.applyTo drawing.ids) : after.Booked where
  checkpoints := by rw [hentries, filterMap_concat, ← h.checkpoints, hcheckpoints]
  redraws := by rw [hentries, List.count_append, ← h.redraws, hredraws]
  added := by
    rw [hentries, filterMap_concat, List.length_append, ← List.range'_append, ← h.added]
    cases hlast : last.added? with
    | none => rfl
    | some id => simp [hadded id hlast, h.nextId, Nat.add_comm]
  nextId := by
    rw [hentries, filterMap_concat, List.length_append, hnextId, h.nextId]
    exact Nat.add_right_comm _ _ _
  stored := by
    rw [hentries]
    exact h.stored_concat hstored
  ids := by rw [hentries, replay_concat, ← h.ids, hids]

theorem checkpoint (h : drawing.Booked) (label : String) : (drawing.checkpoint label).Booked :=
  h.concat (.checkpoint label) Array.toList_push Array.toList_push rfl (by simp [added?]) rfl
    (by simp [target?]) rfl

theorem redraw (h : drawing.Booked) : drawing.redraw.Booked :=
  h.concat .redraw Array.toList_push (List.append_nil _).symm rfl (by simp [added?]) rfl
    (by simp [target?]) rfl

theorem add (h : drawing.Booked) (data : EntityData) : (drawing.add data true).2.Booked :=
  h.concat (.add drawing.nextId) Array.toList_push (List.append_nil _).symm rfl (by simp [added?])
    rfl (by simp [target?]) (by simp [Drawing.ids, Drawing.add, checkpointUnless, record, applyTo])

theorem mem_ids_of_any {id : EntityId} (h : drawing.entities.any (·.id = id)) :
    id ∈ drawing.ids := by
  obtain ⟨entity, hmem, hid⟩ := Array.any_eq_true'.mp h
  exact List.mem_map.mpr ⟨entity, Array.mem_toList_iff.mpr hmem, of_decide_eq_true hid⟩

theorem of_update (h : drawing.Booked) {id : EntityId} {data : EntityData} {after : Drawing}
    (hafter : drawing.update id data true = .ok after) : after.Booked := by
  unfold update at hafter
  split at hafter
  · rename_i hany
    cases hafter
    refine h.concat (.update id) Array.toList_push (List.append_nil _).symm rfl (by simp [added?])
      rfl ?_ ?_
    · rintro _ ⟨⟩
      exact mem_ids_of_any hany
    · simp only [Drawing.ids, record, checkpointUnless, applyTo, Array.toList_map, List.map_map]
      refine List.map_congr_left fun entity _ => ?_
      simp only [Function.comp_apply]
      split <;> simp_all
  · cases hafter

theorem of_remove (h : drawing.Booked) {id : EntityId} {after : Drawing}
    (hafter : drawing.remove id true = .ok after) : after.Booked := by
  unfold remove at hafter
  split at hafter
  · rename_i hany
    cases hafter
    refine h.concat (.remove id) Array.toList_push (List.append_nil _).symm rfl (by simp [added?])
      rfl ?_ ?_
    · rintro _ ⟨⟩
      exact mem_ids_of_any hany
    · simp [Drawing.ids, record, checkpointUnless, applyTo, List.filter_map, Function.comp_def]
  · cases hafter

theorem carriedOut (h : drawing.Booked) (call : CommandCall) :
    (call.carriedOut drawing).Booked := by
  unfold CommandCall.carriedOut
  split
  · exact ((h.checkpoint _).of_same (sameRecords_sendAll _ _)).redraw
  · exact h.of_same (sameRecords_sendAll _ _)

end Booked

theorem entries_checkpoint (label : String) :
    (drawing.checkpoint label).entries = drawing.entries ++ [.checkpoint label] :=
  Array.toList_push

theorem entries_redraw : drawing.redraw.entries = drawing.entries ++ [.redraw] := Array.toList_push

theorem entries_add (data : EntityData) :
    (drawing.add data true).2.entries = drawing.entries ++ [.add drawing.nextId] :=
  Array.toList_push

theorem entries_of_update {id : EntityId} {data : EntityData} {after : Drawing}
    (h : drawing.update id data true = .ok after) :
    after.entries = drawing.entries ++ [.update id] := by
  unfold update at h
  split at h
  · cases h
    exact Array.toList_push
  · cases h

theorem entries_of_remove {id : EntityId} {after : Drawing}
    (h : drawing.remove id true = .ok after) : after.entries = drawing.entries ++ [.remove id] := by
  unfold remove at h
  split at h
  · cases h
    exact Array.toList_push
  · cases h

theorem SameRecords.entries_eq {after : Drawing} (h : drawing.SameRecords after) :
    after.entries = drawing.entries := by
  rw [entries, h.journal]

end Drawing

namespace Builtin

open Editing

/-- The entries that the operator with a name adds to the journal, all of them or none. -/
inductive Block : (operator : String) → List JournalEntry → Prop
  | made (id : EntityId) : Block "ENTMAKE" [.checkpoint "entmake", .add id, .redraw]
  | modified (id : EntityId) : Block "ENTMOD" [.checkpoint "entmod", .update id, .redraw]
  | deleted (id : EntityId) : Block "ENTDEL" [.checkpoint "entdel", .remove id, .redraw]
  | redrawn : Block "ENTUPD" [.redraw]
  | commanded {operator name : String} {first : Value} :
      operator = "COMMAND" ∨ operator = "COMMAND-S" → commandName first = .ok name → name ≠ "" →
      Block operator [.checkpoint name, .redraw]
  | nameless {operator : String} : operator = "COMMAND" ∨ operator = "COMMAND-S" →
      Block operator [.checkpoint ""]

namespace Effect

open Drawing

variable {operator : String} {operands : List Value} {before : Drawing}
  {result : Except Error Value × Drawing}

theorem entries_eq (h : Effect operator operands before result) :
    ∃ block, (block = [] ∨ Block operator block) ∧
      result.2.entries = before.entries ++ block := by
  cases h with
  | refused error => exact ⟨[], .inl rfl, (List.append_nil _).symm⟩
  | noted value hnoted =>
      exact ⟨[], .inl rfl, by rw [hnoted.same.entries_eq, List.append_nil]⟩
  | made value data hname =>
      subst hname
      refine ⟨_, .inr (.made before.nextId), ?_⟩
      rw [entries_redraw, entries_add, entries_checkpoint, List.append_assoc, List.append_assoc]
      rfl
  | @modified value id data changed hname hchanged =>
      subst hname
      refine ⟨_, .inr (.modified id), ?_⟩
      rw [entries_redraw, entries_of_update hchanged, entries_checkpoint, List.append_assoc,
        List.append_assoc]
      rfl
  | @deleted value id changed hname hchanged =>
      subst hname
      refine ⟨_, .inr (.deleted id), ?_⟩
      rw [entries_redraw, entries_of_remove hchanged, entries_checkpoint, List.append_assoc,
        List.append_assoc]
      rfl
  | redrawn value hname =>
      subst hname
      exact ⟨_, .inr .redrawn, entries_redraw⟩
  | called value hcall =>
      unfold CommandCall.carriedOut
      split
      · rename_i name hname
        obtain ⟨hoperator, first, -, hread, hne⟩ := hcall.of_name hname
        refine ⟨_, .inr (.commanded hoperator hread hne), ?_⟩
        rw [entries_redraw, (sameRecords_sendAll _ _).entries_eq, entries_checkpoint,
          List.append_assoc]
        rfl
      · exact ⟨[], .inl rfl, by rw [(sameRecords_sendAll _ _).entries_eq, List.append_nil]⟩
  | nameless h => exact ⟨_, .inr (.nameless h.1), entries_checkpoint _⟩

theorem booked (h : Effect operator operands before result) (hbefore : before.Booked) :
    result.2.Booked := by
  cases h with
  | refused error => exact hbefore
  | noted value hnoted => exact hbefore.of_same hnoted.same
  | made value data _ => exact ((hbefore.checkpoint _).add data).redraw
  | modified value _ hchanged => exact ((hbefore.checkpoint _).of_update hchanged).redraw
  | deleted value _ hchanged => exact ((hbefore.checkpoint _).of_remove hchanged).redraw
  | redrawn value _ => exact hbefore.redraw
  | called value _ => exact hbefore.carriedOut _
  | nameless _ => exact hbefore.checkpoint ""

end Effect

end Builtin

/-- The journal consists of whole blocks, and the other records agree with it. -/
structure Drawing.Consistent (drawing : Drawing) : Prop extends drawing.Booked where
  blocks : ∃ blocks : List (List JournalEntry),
    (∀ block ∈ blocks, ∃ operator, Builtin.Block operator block) ∧
      drawing.entries = blocks.flatten

theorem Drawing.consistent_empty : Drawing.empty.Consistent := ⟨booked_empty, [], by simp, rfl⟩

theorem Drawing.Consistent.of_same {drawing after : Drawing} (h : drawing.Consistent)
    (hsame : drawing.SameRecords after) : after.Consistent :=
  ⟨h.toBooked.of_same hsame, hsame.entries_eq ▸ h.blocks⟩

/-- Every use of an operator keeps the records of a drawing consistent. -/
theorem Builtin.Effect.consistent {operator : String} {operands : List Value} {before : Drawing}
    {result : Except Error Value × Drawing} (h : Effect operator operands before result)
    (hbefore : before.Consistent) : result.2.Consistent := by
  obtain ⟨blocks, hblocks, hentries⟩ := hbefore.blocks
  obtain ⟨block, hblock, hresult⟩ := h.entries_eq
  refine ⟨h.booked hbefore.toBooked, ?_⟩
  rcases hblock with rfl | hblock
  · exact ⟨blocks, hblocks, by rw [hresult, List.append_nil, hentries]⟩
  · refine ⟨blocks ++ [block], ?_, by rw [hresult, hentries]; simp⟩
    simp only [List.mem_append, List.mem_singleton]
    rintro other (hother | rfl)
    · exact hblocks other hother
    · exact ⟨operator, hblock⟩

/-- Whatever scripts do and however they end, the records of the drawing are consistent. -/
theorem consistent_session (config : Config) (batches : List Batch) (last : Batch) :
    let execution := last.run ((Interpreter.new config).afterBatches batches)
    execution.interpreter.session.drawing.Consistent :=
  have hkept : (Invariant.ofDrawing Drawing.Consistent).Kept :=
    Invariant.kept_ofDrawing Builtin.Effect.consistent Drawing.consistent_empty fun text style h =>
      h.of_same (Drawing.sameRecords_writeLog _ text style)
  (Invariant.holdsOf_session hkept config batches last).session

end DraftLisp

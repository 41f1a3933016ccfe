import DraftLisp.Proofs.Drawing.Histories
import DraftLisp.Proofs.Evaluation.Application

namespace DraftLisp

/-- Asks for the first entity, and then again and again for the one behind the last answer. -/
def walk (ev : Evaluator) (level : Nat) : (count : Nat) → Comp Value
  | 0 => callNamed ev level "ENTNEXT" []
  | count + 1 => do callNamed ev level "ENTNEXT" [← walk ev level count]

section

variable (ev : Evaluator) (level : Nat) {state : State}

theorem find?_entnext :
    Builtin.find? "ENTNEXT" = some ⟨"ENTNEXT", .between 0 1, .edit Builtin.Editing.entnext⟩ :=
  rfl

theorem find?_entlast :
    Builtin.find? "ENTLAST" = some ⟨"ENTLAST", .exactly 0, .edit Builtin.Editing.entlast⟩ :=
  rfl

theorem entnext_first (state : State) :
    callNamed ev level "ENTNEXT" [] state =
      .done (.ok (.ofOption (state.drawing.ids.head?.map .entity))) state := by
  rw [callNamed_edit ev level find?_entnext rfl rfl]
  rfl

theorem entnext_behind (id : EntityId) (state : State) :
    callNamed ev level "ENTNEXT" [.entity id] state =
      .done (.ok (.ofOption (((state.drawing.ids.findIdx? (· == id)).bind fun place =>
        state.drawing.ids[place + 1]?).map .entity))) state := by
  rw [callNamed_edit ev level find?_entnext rfl rfl]
  rfl

theorem entlast_eq (state : State) :
    callNamed ev level "ENTLAST" [] state =
      .done (.ok (.ofOption (state.drawing.ids.getLast?.map .entity))) state := by
  rw [callNamed_edit ev level find?_entlast rfl rfl]
  have hlast : state.drawing.ids.getLast? = state.drawing.entities.back?.map (·.id) := by
    simp [Drawing.ids]
  rw [hlast, Option.map_map]
  rfl

theorem findIdx?_getElem_of_nodup {ids : List EntityId} (h : ids.Nodup) {place : Nat}
    (hplace : place < ids.length) : ids.findIdx? (· == ids[place]) = some place := by
  rw [List.findIdx?_eq_some_iff_getElem]
  refine ⟨hplace, by simp, fun earlier hearlier => ?_⟩
  simpa using List.pairwise_iff_getElem.mp h earlier place _ hplace hearlier

/-- An entity is found by its number, so that the walk goes on where it stands. -/
theorem walk_eq (h : state.drawing.ids.Nodup) {count : Nat}
    (hcount : count ≤ state.drawing.ids.length) :
    walk ev level count state =
      .done (.ok (.ofOption (state.drawing.ids[count]?.map .entity))) state := by
  induction count with
  | zero => rw [walk, entnext_first, List.head?_eq_getElem?]
  | succ count ih =>
      rw [walk, Comp.bind_apply, ih (Nat.le_of_succ_le hcount), List.getElem?_eq_getElem hcount]
      change callNamed ev level "ENTNEXT" [.entity state.drawing.ids[count]] state = _
      rw [entnext_behind, findIdx?_getElem_of_nodup h hcount]
      rfl

end

namespace Drawing

/-- A walk in a drawing that does not change. -/
structure Visited (drawing : Drawing) (ev : Evaluator) (level : Nat) (state : State) : Prop where
  visits : ∀ count id, drawing.ids[count]? = some id →
    walk ev level count state = .done (.ok (.entity id)) state
  ends : walk ev level drawing.ids.length state = .done (.ok .nil) state
  /-- The last entity is the one that is visited before the end. -/
  last : callNamed ev level "ENTLAST" [] state = walk ev level (drawing.ids.length - 1) state

theorem visited_of_nodup {drawing : Drawing} (h : drawing.ids.Nodup) (ev : Evaluator) (level : Nat)
    {state : State} (hstate : state.drawing = drawing) : Visited drawing ev level state := by
  subst hstate
  constructor
  · intro count id hid
    obtain ⟨hcount, -⟩ := List.getElem?_eq_some_iff.mp hid
    rw [walk_eq ev level h (Nat.le_of_lt hcount), hid]
    rfl
  · rw [walk_eq ev level h (Nat.le_refl _), List.getElem?_eq_none (Nat.le_refl _)]
    rfl
  · rw [walk_eq ev level h (Nat.sub_le _ _), entlast_eq, List.getLast?_eq_getElem?]

/-- What any history of a drawing makes of its entities, and what the next operation does. -/
structure Ordered (history : List Operation) : Prop where
  /-- Numbers are counted from one, so that none is issued twice. -/
  counted : issued history = List.range' 1 (issued history).length
  bounded : ∀ id ∈ issued history, id ≤ history.length
  ascending : (after history).ids.Pairwise (· < ·)
  stored : ∀ id ∈ (after history).ids, id ∈ issued history
  /-- An entity that is gone does not come back. -/
  gone : ∀ earlier later, history = earlier ++ later →
    ∀ id ∈ issued earlier, id ∉ (after earlier).ids → id ∉ (after history).ids
  added : ∀ data skipUndo, ∃ next,
    (after history).operate (.add data skipUndo) = (.issued (after history).nextId, next) ∧
      (after history).nextId ∉ issued history ∧
      next.entities = (after history).entities.push { data with id := (after history).nextId } ∧
      Recorded "add" skipUndo [.add (after history).nextId] (after history) next
  /-- Without the entity, an operation on it is refused and changes nothing. -/
  absent : ∀ id, id ∉ (after history).ids → ∀ data skipUndo,
    (after history).operate (.update id data skipUndo) =
        (.refused (.unknownId id), after history) ∧
      (after history).operate (.remove id skipUndo) = (.refused (.unknownId id), after history)
  updated : ∀ id, id ∈ (after history).ids → ∀ data skipUndo, ∃ next,
    (after history).operate (.update id data skipUndo) = (.done, next) ∧
      next.ids = (after history).ids ∧
      (∀ other, next.get? other =
        if other = id then some { data with id } else (after history).get? other) ∧
      next.nextId = (after history).nextId ∧
      Recorded "update" skipUndo [.update id] (after history) next
  removed : ∀ id, id ∈ (after history).ids → ∀ skipUndo, ∃ next,
    (after history).operate (.remove id skipUndo) = (.done, next) ∧
      next.entities = (after history).entities.filter (·.id ≠ id) ∧
      next.nextId = (after history).nextId ∧
      Recorded "remove" skipUndo [.remove id] (after history) next
  /-- Of the numbers listed, those of stored entities count, each once and in ascending order. -/
  removedMany : ∀ listed skipUndo, ∃ next,
    (after history).operate (.removeMany listed skipUndo) = (.done, next) ∧
      next.entities = (after history).entities.filter (·.id ∉ listed) ∧
      next.nextId = (after history).nextId ∧
      Recorded "remove" skipUndo (((after history).ids.filter (· ∈ listed)).map .remove)
        (after history) next
  visited : ∀ ev level state, state.drawing = after history →
    Visited (after history) ev level state

theorem get?_of_mem_ids {drawing : Drawing} {id : EntityId} (h : id ∈ drawing.ids) :
    ∃ entity, drawing.get? id = some entity := by
  obtain ⟨entity, hentity, hid⟩ := mem_ids_iff.mp h
  have hfound : (drawing.get? id).isSome :=
    Array.find?_isSome.mpr ⟨entity, hentity, decide_eq_true hid⟩
  exact Option.isSome_iff_exists.mp hfound

/-- However a drawing came about, its entities are in order and can be visited in order. -/
theorem ordered_after (history : List Operation) : Ordered history := by
  have hnumbered := numbered_after history
  constructor
  case counted => exact hnumbered.counted
  case bounded =>
    intro id hid
    rw [hnumbered.counted, List.mem_range'_1, Nat.add_comm] at hid
    exact Nat.le_trans (Nat.le_of_lt_succ hid.2) (length_issuedBy_le empty history)
  case ascending => exact hnumbered.ascending
  case stored => exact hnumbered.stored
  case gone =>
    rintro earlier later rfl id hid hgone
    have hsplit : after (earlier ++ later) = (after earlier).operateAll later :=
      operateAll_append empty earlier later
    rw [hsplit]
    exact not_mem_ids_operateAll ((numbered_after earlier).lt_nextId hid) hgone later
  case added =>
    intro data skipUndo
    exact ⟨_, rfl, fun hmem => Nat.lt_irrefl _ (hnumbered.lt_nextId hmem),
      (stored_add _ data skipUndo).1, recorded_add _ data skipUndo⟩
  case absent =>
    intro id habsent data skipUndo
    have hupdate := ((after history).update_cases id data skipUndo).resolve_right
      fun hother => habsent hother.1
    have hremove := ((after history).remove_cases id skipUndo).resolve_right
      fun hother => habsent hother.1
    simp only [operate, hupdate.2, hremove.2, and_self]
  case updated =>
    intro id hid data skipUndo
    obtain ⟨-, next, hnext⟩ := ((after history).update_cases id data skipUndo).resolve_left
      fun hother => hother.1 hid
    obtain ⟨entity, hentity⟩ := get?_of_mem_ids hid
    refine ⟨next, ?_, ids_of_update hnext, get?_of_update hentity hnext,
      (stored_of_update hnext).2, recorded_of_update hnext⟩
    simp only [operate, hnext]
  case removed =>
    intro id hid skipUndo
    obtain ⟨-, next, hnext⟩ := ((after history).remove_cases id skipUndo).resolve_left
      fun hother => hother.1 hid
    obtain ⟨hentities, hnextId⟩ := stored_of_remove hnext
    refine ⟨next, ?_, hentities, hnextId, recorded_of_remove hnext⟩
    simp only [operate, hnext]
  case removedMany =>
    intro listed skipUndo
    obtain ⟨hentities, hnextId⟩ := stored_removeMany (after history) listed skipUndo
    refine ⟨_, rfl, ?_, hnextId, ?_⟩
    · simpa using hentities
    · simpa using (after history).recorded_removeMany listed skipUndo
  case visited =>
    intro ev level state hstate
    exact visited_of_nodup (hnumbered.ascending.imp Nat.ne_of_lt) ev level hstate

end Drawing

end DraftLisp

import Mathlib.Data.List.Sort
import DraftLisp.Proofs.Drawing.Walk

namespace DraftLisp

namespace Drawing.Issued

variable {issued : List EntityId} {drawing : Drawing}

theorem ascending (h : Issued issued drawing) : issued.Pairwise (· < ·) := by
  induction h with
  | empty => exact .nil
  | kept _ _ _ ih => exact ih
  | added h _ _ ih =>
      refine List.pairwise_append.mpr ⟨ih, List.pairwise_singleton _ _, ?_⟩
      simp only [List.mem_singleton]
      rintro earlier hearlier _ rfl
      exact h.lt_nextId earlier hearlier
  | updated _ _ ih => exact ih
  | removed _ _ ih => exact ih
  | removedMany _ _ _ ih => exact ih

theorem nodup (h : Issued issued drawing) : issued.Nodup :=
  h.ascending.imp Nat.ne_of_lt

/-- What is stored is stored in the order in which it was added. -/
theorem ids_sublist (h : Issued issued drawing) : drawing.ids.Sublist issued := by
  induction h with
  | empty => exact List.nil_sublist []
  | kept _ hentities _ ih =>
      rw [ids, hentities]
      exact ih
  | @added issued before _ data skipUndo ih =>
      rw [ids_add]
      exact ih.append (List.Sublist.refl _)
  | updated _ hafter ih =>
      rw [ids_of_update hafter]
      exact ih
  | removed _ hafter ih =>
      rw [ids_of_remove hafter]
      exact List.filter_sublist.trans ih
  | @removedMany issued before _ gone skipUndo ih =>
      rw [ids_removeMany]
      exact List.filter_sublist.trans ih

theorem ids_ascending (h : Issued issued drawing) : drawing.ids.Pairwise (· < ·) :=
  h.ascending.sublist h.ids_sublist

theorem ids_eq_filter (h : Issued issued drawing) :
    drawing.ids = issued.filter (· ∈ drawing.ids) := by
  refine h.ids_ascending.eq_of_mem_iff (h.ascending.filter _) fun id => ?_
  simpa using h.mem_of_mem_ids id

end Drawing.Issued

section Behind

variable {earlier later : List EntityId} {id : EntityId}

/-- What stands behind a number among those that are stored. -/
theorem behind_filter (h : (earlier ++ id :: later).Nodup) (stored : EntityId → Bool) :
    ((((earlier ++ id :: later).filter stored).findIdx? (· == id)).bind fun place =>
        ((earlier ++ id :: later).filter stored)[place + 1]?) =
      if stored id then later.find? stored else none := by
  have hids := List.filter_append (p := stored) earlier (id :: later)
  by_cases hstored : stored id
  · rw [List.filter_cons_of_pos hstored] at hids
    rw [if_pos hstored, hids]
    have hlt : (earlier.filter stored).length <
        (earlier.filter stored ++ id :: later.filter stored).length := by simp
    have hplace := findIdx?_getElem_of_nodup (hids ▸ h.filter stored) hlt
    simp only [List.getElem_append_right (Nat.le_refl _), Nat.sub_self, List.getElem_cons_zero]
      at hplace
    rw [hplace, Option.bind_some, List.getElem?_append_right (Nat.le_succ _)]
    simp [← List.head?_eq_getElem?]
  · rw [if_neg hstored]
    have habsent : ∀ other ∈ (earlier ++ id :: later).filter stored, (other == id) = false := by
      intro other hother
      refine beq_false_of_ne ?_
      rintro rfl
      exact hstored (List.mem_filter.mp hother).2
    rw [List.findIdx?_eq_none_iff.mpr habsent, Option.bind_none]

end Behind

open Drawing

/-- An entity that is stored is followed by the first of those made later that is stored too; one
that is gone is followed by none. -/
theorem entnext_issued {earlier later : List EntityId} {id : EntityId} {state : State}
    (h : Issued (earlier ++ id :: later) state.drawing) (ev : Evaluator) (level : Nat) :
    callNamed ev level "ENTNEXT" [.entity id] state =
      .done (.ok (.ofOption ((if id ∈ state.drawing.ids
        then later.find? (· ∈ state.drawing.ids) else none).map .entity))) state := by
  have hbehind := behind_filter h.nodup (· ∈ state.drawing.ids)
  rw [← h.ids_eq_filter] at hbehind
  rw [entnext_behind, hbehind]
  simp only [decide_eq_true_eq]

/-- Three circles, of which the second one is gone. -/
def gappedDrawing : Drawing :=
  let circle : EntityData := ⟨"0", .circle .origin 1⟩
  let drawing := (((Drawing.empty.add circle true).2.add circle true).2.add circle true).2
  drawing.removeMany [2] true

def gappedState : State := { (default : State) with drawing := gappedDrawing }

theorem issued_gappedDrawing : Issued [1, 2, 3] gappedDrawing :=
  .removedMany (.added (.added (.added .empty _ true) _ true) _ true) [2] true

theorem entnext_issued_gapped :
    Issued ([] ++ 1 :: [2, 3]) gappedState.drawing ∧
      callNamed (fun _ _ => .pure .nil) 0 "ENTNEXT" [.entity 1] gappedState =
        .done (.ok (.entity 3)) gappedState := by
  have hissued : Issued ([] ++ 1 :: [2, 3]) gappedState.drawing := issued_gappedDrawing
  exact ⟨hissued, entnext_issued hissued (fun _ _ => .pure .nil) 0⟩

/-- Behind an entity that is gone there is nothing, although an entity made later is stored. -/
theorem not_next_behind_gone :
    ¬∀ (earlier later : List EntityId) (id : EntityId) (state : State),
      Issued (earlier ++ id :: later) state.drawing → ∀ ev level,
        callNamed ev level "ENTNEXT" [.entity id] state =
          .done (.ok (.ofOption ((later.find? (· ∈ state.drawing.ids)).map .entity))) state := by
  intro h
  have hnext := h [1] [3] 2 gappedState issued_gappedDrawing (fun _ _ => .pure .nil) 0
  rw [entnext_behind] at hnext
  have hvalue := Except.ok.inj (Run.done.inj hnext).1
  have hfound : (.nil : Value) = .entity 3 := hvalue
  cases hfound

end DraftLisp

import DraftLisp.Proofs.Drawing.Succession
import DraftLisp.Proofs.Entity.Slots

namespace DraftLisp

/-- Code 0 asks for the type of an entity and code 8 for its layer, both in uppercase. -/
structure Entity.Fits (entity : Entity) (code : Int) (text : String) : Prop where
  type : code = 0 → entity.shape.typeName = Text.upper text
  layer : code = 8 → Text.upper entity.layer = Text.upper text

namespace Builtin.Asking

/-- The criteria of a filter whose entries are read like those of a description. -/
def Asked (entries : List Value) (code : Int) (text : String) : Prop :=
  ∃ entry ∈ entries, Groups.pair? entry = some (code, .string text)

/-- The criteria of a filter if fractions of codes are cut off. -/
def AskedCut (entries : List Value) (code : Int) (text : String) : Prop :=
  ∃ x, .list [.number x, .string text] ∈ entries ∧ Numeric.toInt32 x = code

/-- The entity fits every criterion. -/
def FitsAll (entity : Entity) (asked : Int → String → Prop) : Prop :=
  ∀ code text, asked code text → entity.Fits code text

variable {entries : List Value} {entity : Entity} {code : Int} {text : String}

theorem Asked.cut (h : Asked entries code text) : AskedCut entries code text := by
  obtain ⟨entry, hentry, hpair⟩ := h
  obtain ⟨x, rfl, -, hcode⟩ := Groups.pair?_eq_some_iff.mp hpair
  exact ⟨x, hentry, hcode⟩

/-- The codes with a meaning are whole numbers. -/
def Whole (entries : List Value) : Prop :=
  ∀ x text, .list [.number x, .string text] ∈ entries → Numeric.toInt32 x ∈ [0, 8] →
    Numeric.isWhole x

theorem fitsAll_asked_iff (h : Whole entries) :
    FitsAll entity (Asked entries) ↔ FitsAll entity (AskedCut entries) := by
  constructor
  · rintro hfits code text ⟨x, hentry, hcode⟩
    by_cases hused : code ∈ ([0, 8] : List Int)
    · have hwhole := h x text hentry (hcode ▸ hused)
      exact hfits code text ⟨_, hentry, Groups.pair?_eq_some_iff.mpr ⟨x, rfl, hwhole, hcode⟩⟩
    · simp only [List.mem_cons, List.not_mem_nil, or_false, not_or] at hused
      exact ⟨fun htype => absurd htype hused.1, fun hlayer => absurd hlayer hused.2⟩
  · exact fun hfits code text hasked => hfits code text hasked.cut

theorem meets_iff : meets entity (code, Text.upper text) = true ↔ entity.Fits code text := by
  unfold meets
  split
  · rename_i heq
    obtain ⟨rfl, rfl⟩ := Prod.mk.inj heq
    exact beq_iff_eq.trans ⟨fun h => ⟨fun _ => h, nofun⟩, fun h => h.type rfl⟩
  · rename_i heq
    obtain ⟨rfl, rfl⟩ := Prod.mk.inj heq
    exact beq_iff_eq.trans ⟨fun h => ⟨nofun, fun _ => h⟩, fun h => h.layer rfl⟩
  · rename_i hnotType hnotLayer
    refine iff_of_true rfl ⟨?_, ?_⟩
    · rintro rfl
      exact (hnotType _ rfl).elim
    · rintro rfl
      exact (hnotLayer _ rfl).elim

theorem criterion?_eq_some_iff {entry : Value} {criterion : Int × String} :
    criterion? entry = some criterion ↔
      ∃ x text, entry = .list [.number x, .string text] ∧
        (Numeric.toInt32 x, Text.upper text) = criterion := by
  constructor
  · intro h
    unfold criterion? at h
    split at h
    · exact ⟨_, _, rfl, Option.some.inj h⟩
    · cases h
  · rintro ⟨x, text, rfl, rfl⟩
    rfl

theorem all_meets_iff :
    (entries.filterMap criterion?).all (meets entity) = true ↔
      FitsAll entity (AskedCut entries) := by
  simp only [List.all_eq_true, List.mem_filterMap, criterion?_eq_some_iff]
  constructor
  · rintro h code text ⟨x, hentry, rfl⟩
    exact meets_iff.mp (h _ ⟨_, hentry, x, text, rfl, rfl⟩)
  · rintro h _ ⟨_, hentry, x, text, rfl, rfl⟩
    exact meets_iff.mpr (h _ text ⟨x, hentry, rfl⟩)

theorem selectAll_eq (drawing : Drawing) {filter : Value}
    (hfilter : filter.items? = some entries) :
    ∃ chosen : List Entity, chosen.Sublist drawing.entities.toList ∧
      (∀ entity, entity ∈ chosen ↔
        entity ∈ drawing.entities ∧ FitsAll entity (AskedCut entries)) ∧
      selectAll (some filter) drawing =
        .ok (if chosen = [] then .nil else .selection (chosen.map (·.id))) := by
  let fits (entity : Entity) := (entries.filterMap criterion?).all (meets entity)
  refine ⟨drawing.entities.toList.filter fits, List.filter_sublist, fun entity => ?_, ?_⟩
  · rw [List.mem_filter, Array.mem_toList_iff]
    exact and_congr_right fun _ => all_meets_iff
  · have hlist : Value.expectList filter = .ok entries := by
      rw [Value.expectList, hfilter]
      rfl
    simp only [selectAll, hlist, List.isEmpty_iff]
    rfl

theorem selectEntities_whole (drawing : Drawing) {filter selected : Value}
    (h : selectAll (some filter) drawing = .ok selected) :
    selectEntities [.string "X", filter] drawing = .ok (.answered selected) := by
  have hmode : "X".toUpper = "X" := by decide +kernel
  change (if "X".toUpper = "X" then do return Demand.answered (← selectAll (some filter) drawing)
    else _) = _
  rw [if_pos hmode, h]
  rfl

end Builtin.Asking

namespace Drawing

theorem get?_eq_some_iff {drawing : Drawing} (h : drawing.ids.Nodup) {id : EntityId}
    {entity : Entity} :
    drawing.get? id = some entity ↔ entity ∈ drawing.entities ∧ entity.id = id := by
  constructor
  · exact fun hget => ⟨Array.mem_of_find?_eq_some hget, id_of_get? hget⟩
  · rintro ⟨hentity, rfl⟩
    obtain ⟨found, hfound⟩ := get?_of_mem_ids (mem_ids_iff.mpr ⟨entity, hentity, rfl⟩)
    -- The number belongs to one entity only.
    have hsame := List.inj_on_of_nodup_map h
      (Array.mem_toList_iff.mpr (Array.mem_of_find?_eq_some hfound))
      (Array.mem_toList_iff.mpr hentity) (id_of_get? hfound)
    rw [hfound, hsame]

end Drawing

open Drawing Builtin.Asking

theorem find?_ssget :
    Builtin.find? "SSGET" = some ⟨"SSGET", .between 0 2, .input selectEntities⟩ :=
  rfl

theorem ssget_fitting {issued : List EntityId} {entries : List Value} {filter : Value}
    {state : State} (h : Issued issued state.drawing) (hfilter : filter.items? = some entries)
    (ev : Evaluator) (level : Nat) :
    ∃ chosen : List EntityId,
      callNamed ev level "SSGET" [.string "X", filter] state =
        .done (.ok (if chosen = [] then .nil else .selection chosen)) state ∧
      chosen.Sublist issued ∧ chosen.Nodup ∧
      ∀ id, id ∈ chosen ↔
        ∃ entity, state.drawing.get? id = some entity ∧ FitsAll entity (AskedCut entries) := by
  obtain ⟨chosen, hsublist, hmem, hselect⟩ := selectAll_eq state.drawing hfilter
  have hids : (chosen.map (·.id)).Sublist state.drawing.ids := hsublist.map _
  have hstored := h.nodup.sublist h.ids_sublist
  refine ⟨chosen.map (·.id), ?_, hids.trans h.ids_sublist, hstored.sublist hids, fun id => ?_⟩
  · rw [callNamed_answered ev level find?_ssget rfl rfl (selectEntities_whole _ hselect)]
    simp only [List.map_eq_nil_iff]
  · simp only [List.mem_map, hmem, get?_eq_some_iff hstored]
    exact exists_congr fun entity => and_right_comm

/-- A filter selects the stored entities that fit all its criteria, in the order in which they were
made. Fractions of codes are cut off, so that the criteria are those of the entries with whole codes
if no other entry is cut off to a code with a meaning. -/
theorem ssget_selects {issued : List EntityId} {entries : List Value} {filter : Value}
    {state : State} (h : Issued issued state.drawing) (hfilter : filter.items? = some entries)
    (ev : Evaluator) (level : Nat) :
    ∃ chosen : List EntityId,
      callNamed ev level "SSGET" [.string "X", filter] state =
        .done (.ok (if chosen = [] then .nil else .selection chosen)) state ∧
      chosen.Sublist issued ∧ chosen.Nodup ∧
      (∀ id, id ∈ chosen ↔
        ∃ entity, state.drawing.get? id = some entity ∧ FitsAll entity (AskedCut entries)) ∧
      (Whole entries → ∀ id, id ∈ chosen ↔
        ∃ entity, state.drawing.get? id = some entity ∧ FitsAll entity (Asked entries)) := by
  obtain ⟨chosen, hcall, hsublist, hnodup, hmem⟩ := ssget_fitting h hfilter ev level
  refine ⟨chosen, hcall, hsublist, hnodup, hmem, fun hwhole id => (hmem id).trans ?_⟩
  exact exists_congr fun entity => and_congr_right fun _ => (fitsAll_asked_iff hwhole).symm

/-- The circles on layer 0, asked for twice, beside entries that ask for nothing. -/
def circleFilter : List Value :=
  [.list [.number 0, .string "circle"], .list [.number 8, .string "0"], .string "circle",
    .list [.number 0, .string "CIRCLE"], .list [.number 8, .number 0],
    .list [.number 62.5, .string "red"]]

theorem whole_circleFilter : Whole circleFilter := by
  intro x text hentry hcode
  simp only [circleFilter, List.mem_cons, List.not_mem_nil, or_false, Value.list.injEq,
    List.cons.injEq, Value.number.injEq, Value.string.injEq, reduceCtorEq, and_false, and_true,
    false_or] at hentry
  obtain ⟨rfl, -⟩ | ⟨rfl, -⟩ | ⟨rfl, -⟩ | ⟨rfl, -⟩ := hentry
  · decide +kernel
  · decide +kernel
  · decide +kernel
  · exact absurd hcode (by decide +kernel)

theorem ssget_selects_circles :
    Issued [1, 2, 3] gappedState.drawing ∧
      (Value.list circleFilter).items? = some circleFilter ∧ Whole circleFilter ∧
      ∃ chosen : List EntityId,
        callNamed (fun _ _ => .pure .nil) 0 "SSGET" [.string "X", .list circleFilter] gappedState =
          .done (.ok (if chosen = [] then .nil else .selection chosen)) gappedState ∧
        chosen.Sublist [1, 2, 3] ∧ chosen.Nodup ∧
        ∀ id, id ∈ chosen ↔ ∃ entity, gappedState.drawing.get? id = some entity ∧
          FitsAll entity (Asked circleFilter) := by
  have hissued : Issued [1, 2, 3] gappedState.drawing := issued_gappedDrawing
  have hitems : (Value.list circleFilter).items? = some circleFilter := rfl
  obtain ⟨chosen, hcall, hsublist, hnodup, -, hmem⟩ :=
    ssget_selects hissued hitems (fun _ _ => .pure .nil) 0
  exact ⟨hissued, hitems, whole_circleFilter, chosen, hcall, hsublist, hnodup,
    hmem whole_circleFilter⟩

def lineState : State :=
  { (default : State) with drawing := (Drawing.empty.add ⟨"0", .line .origin .origin⟩ true).2 }

/-- An entry with the code 0.5 asks for a type as if it had the code 0, so that a line is left out
that fits all criteria with whole codes. -/
theorem not_selects_whole :
    ¬∀ (issued : List EntityId) (entries : List Value) (filter : Value) (state : State),
      Issued issued state.drawing → filter.items? = some entries → ∀ ev level,
      ∃ chosen : List EntityId,
        callNamed ev level "SSGET" [.string "X", filter] state =
          .done (.ok (if chosen = [] then .nil else .selection chosen)) state ∧
        ∀ id, id ∈ chosen ↔
          ∃ entity, state.drawing.get? id = some entity ∧ FitsAll entity (Asked entries) := by
  intro h
  let entries : List Value := [.list [.number 0.5, .string "CIRCLE"]]
  have hissued : Issued [1] lineState.drawing := .added .empty _ true
  obtain ⟨chosen, hcall, hmem⟩ :=
    h [1] entries (.list entries) lineState hissued rfl (fun _ _ => .pure .nil) 0
  have hline : 1 ∈ chosen := by
    refine (hmem 1).mpr ⟨_, rfl, ?_⟩
    rintro code text ⟨entry, hentry, hpair⟩
    obtain rfl := List.mem_singleton.mp hentry
    have hfraction : Groups.pair? (.list [.number 0.5, .string "CIRCLE"]) = none := by
      rw [Groups.pair?, if_neg (by decide +kernel)]
    cases hfraction.symm.trans hpair
  have hnone : selectAll (some (.list entries)) lineState.drawing = .ok .nil := by
    rfl
  have hvalue := hcall.symm.trans
    (callNamed_answered _ 0 find?_ssget rfl rfl (selectEntities_whole _ hnone))
  rw [if_neg (List.ne_nil_of_mem hline)] at hvalue
  cases hvalue

end DraftLisp

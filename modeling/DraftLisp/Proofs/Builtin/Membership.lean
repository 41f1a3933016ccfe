import DraftLisp.Proofs.Evaluation.Application
import DraftLisp.Proofs.Numeric.Counting

namespace DraftLisp.Builtin.Selections

inductive Step where
  | add (id : EntityId)
  | delete (id : EntityId)
  deriving DecidableEq

namespace Step

def id : Step → EntityId
  | add id => id
  | delete id => id

def operator : Step → String
  | add _ => "SSADD"
  | delete _ => "SSDEL"

/-- What a step makes of the members of a set. -/
def effect (step : Step) (set : List EntityId) : List EntityId :=
  match step with
  | add id => insert id set
  | delete id => set.filter (· ≠ id)

/-- A step of a script. The set is kept where the operator answers `nil`. -/
def run (ev : Evaluator) (level : Nat) (set : Value) (step : Step) : Comp Value := do
  match ← callNamed ev level step.operator [.entity step.id, set] with
  | .nil => pure set
  | answer => pure answer

end Step

variable {ids set : List EntityId} {id other : EntityId} {steps : List Step} {step : Step}

/-- What is in a set after steps: an entity that was named last to be added, and of those that are
not named an entity that was in the set before. -/
def Present (ids : List EntityId) (steps : List Step) (id : EntityId) : Prop :=
  (∃ earlier later, steps = earlier ++ .add id :: later ∧ ∀ step ∈ later, step.id ≠ id) ∨
    (∀ step ∈ steps, step.id ≠ id) ∧ id ∈ ids

/-- A step that adds an entity that is not in the set. -/
def Inserted (ids : List EntityId) (steps : List Step) (id : EntityId) (place : Nat) : Prop :=
  steps[place]? = some (.add id) ∧ ¬Present ids (steps.take place) id

/-- The last step that adds the entity while it is not in the set. -/
def CameIn (ids : List EntityId) (steps : List Step) (id : EntityId) (place : Nat) : Prop :=
  IsGreatest { place | Inserted ids steps id place } place

/-- Both came in, the first one before the second one. -/
def Before (ids : List EntityId) (steps : List Step) (first second : EntityId) : Prop :=
  ∃ m n, CameIn ids steps first m ∧ CameIn ids steps second n ∧ m < n

/-- No step deletes the entity. -/
def Spared (steps : List Step) (id : EntityId) : Prop := Step.delete id ∉ steps

instance : DecidablePred (Spared steps) := fun id =>
  inferInstanceAs (Decidable (Step.delete id ∉ steps))

/-- The members of a set after steps, and their order. -/
structure Arranged (ids : List EntityId) (steps : List Step) (set : List EntityId) : Prop where
  mem_iff : ∀ id, id ∈ set ↔ Present ids steps id
  order : ∃ added, set = ids.filter (Spared steps ·) ++ added ∧
    (∀ id ∈ added, ∃ place, CameIn ids steps id place) ∧ added.Pairwise (Before ids steps)

theorem present_nil : Present ids [] id ↔ id ∈ ids := by
  simp [Present]

/-- No step names the entity. -/
theorem forall_concat_ne :
    (∀ other ∈ steps ++ [step], other.id ≠ id) ↔
      (∀ other ∈ steps, other.id ≠ id) ∧ step.id ≠ id := by
  rw [List.forall_mem_append, List.forall_mem_singleton]

/-- The last step counts if it names the entity, and the steps before it if not. -/
theorem present_concat :
    Present ids (steps ++ [step]) id ↔ step = .add id ∨ step.id ≠ id ∧ Present ids steps id := by
  constructor
  · rintro (⟨earlier, later, hsteps, hlater⟩ | ⟨hnone, hid⟩)
    · rcases later.eq_nil_or_concat with rfl | ⟨rest, last, rfl⟩
      · exact .inl (List.singleton_inj.mp (List.append_inj_right' hsteps rfl))
      · rw [List.concat_eq_append] at hsteps hlater
        rw [← List.cons_append, ← List.append_assoc] at hsteps
        obtain ⟨rfl, hlast⟩ := List.append_inj' hsteps rfl
        obtain rfl := List.singleton_inj.mp hlast
        obtain ⟨hrest, hne⟩ := forall_concat_ne.mp hlater
        exact .inr ⟨hne, .inl ⟨earlier, rest, rfl, hrest⟩⟩
    · obtain ⟨hsteps, hne⟩ := forall_concat_ne.mp hnone
      exact .inr ⟨hne, .inr ⟨hsteps, hid⟩⟩
  · rintro (rfl | ⟨hne, ⟨earlier, later, rfl, hlater⟩ | ⟨hnone, hid⟩⟩)
    · exact .inl ⟨steps, [], rfl, by simp⟩
    · exact .inl ⟨earlier, later ++ [step], by simp, forall_concat_ne.mpr ⟨hlater, hne⟩⟩
    · exact .inr ⟨forall_concat_ne.mpr ⟨hnone, hne⟩, hid⟩

theorem inserted_concat {place : Nat} :
    Inserted ids (steps ++ [step]) id place ↔
      Inserted ids steps id place ∨
        place = steps.length ∧ step = .add id ∧ ¬Present ids steps id := by
  unfold Inserted
  rcases Nat.lt_trichotomy place steps.length with hlt | rfl | hlt
  · rw [List.getElem?_append_left hlt, List.take_append_of_le_length (Nat.le_of_lt hlt)]
    simp [Nat.ne_of_lt hlt]
  · simp
  · have hnone : (steps ++ [step])[place]? = none :=
      List.getElem?_eq_none (by simpa using Nat.succ_le_of_lt hlt)
    simp [hnone, Nat.le_of_lt hlt, Nat.ne_of_gt hlt]

/-- A step counts for an entity only if the entity comes in by it. -/
theorem cameIn_concat (h : step = .add id → Present ids steps id) {place : Nat} :
    CameIn ids (steps ++ [step]) id place ↔ CameIn ids steps id place := by
  have hsame : { place | Inserted ids (steps ++ [step]) id place } =
      { place | Inserted ids steps id place } := by
    ext place
    refine inserted_concat.trans (or_iff_left ?_)
    exact fun ⟨_, hadd, habsent⟩ => habsent (h hadd)
  unfold CameIn
  rw [hsame]

theorem cameIn_last (h : ¬Present ids steps id) :
    CameIn ids (steps ++ [.add id]) id steps.length := by
  constructor
  · exact inserted_concat.mpr (.inr ⟨rfl, rfl, h⟩)
  · intro place hplace
    rcases inserted_concat.mp hplace with hearlier | ⟨rfl, -⟩
    · exact Nat.le_of_lt (List.getElem?_eq_some_iff.mp hearlier.1).1
    · exact Nat.le_refl _

theorem CameIn.lt_length {place : Nat} (h : CameIn ids steps id place) : place < steps.length :=
  (List.getElem?_eq_some_iff.mp h.1.1).1

theorem before_concat {first second : EntityId}
    (hfirst : step = .add first → Present ids steps first)
    (hsecond : step = .add second → Present ids steps second)
    (h : Before ids steps first second) : Before ids (steps ++ [step]) first second := by
  obtain ⟨m, n, hm, hn, hlt⟩ := h
  exact ⟨m, n, (cameIn_concat hfirst).mpr hm, (cameIn_concat hsecond).mpr hn, hlt⟩

theorem spared_concat : Spared (steps ++ [step]) id ↔ Spared steps id ∧ step ≠ .delete id := by
  simp [Spared, eq_comm]

theorem insert_of_mem (h : id ∈ set) : insert id set = set := by
  simp [insert, h]

theorem insert_of_not_mem (h : id ∉ set) : insert id set = set ++ [id] := by
  simp [insert, h]

theorem mem_effect : id ∈ step.effect set ↔ step = .add id ∨ step.id ≠ id ∧ id ∈ set := by
  cases step with
  | add new =>
      by_cases hnew : new ∈ set
      · rw [Step.effect, insert_of_mem hnew]
        by_cases hsame : new = id
        · simp [hsame ▸ hnew, hsame]
        · simp [Step.id, hsame]
      · rw [Step.effect, insert_of_not_mem hnew]
        by_cases hsame : new = id
        · simp [hsame]
        · simp [Step.id, hsame, Ne.symm hsame]
  | delete gone =>
      rw [Step.effect, List.mem_filter, decide_eq_true_eq, and_comm, ne_comm]
      simp [Step.id]

theorem nodup_effect (h : set.Nodup) (step : Step) : (step.effect set).Nodup := by
  cases step with
  | add new =>
      by_cases hnew : new ∈ set
      · rwa [Step.effect, insert_of_mem hnew]
      · rw [Step.effect, insert_of_not_mem hnew]
        rw [← List.concat_eq_append]
        exact h.concat hnew
  | delete gone => exact h.filter _

namespace Arranged

theorem start : Arranged ids [] ids := by
  refine ⟨fun id => present_nil.symm, [], ?_, by simp, .nil⟩
  simp [Spared]

/-- Members stay in their order, whatever the next step does to others. -/
theorem order_concat {added : List EntityId} (hpresent : ∀ id ∈ added, Present ids steps id)
    (hplaces : ∀ id ∈ added, ∃ place, CameIn ids steps id place)
    (horder : added.Pairwise (Before ids steps)) (step : Step) :
    (∀ id ∈ added, ∃ place, CameIn ids (steps ++ [step]) id place) ∧
      added.Pairwise (Before ids (steps ++ [step])) := by
  constructor
  · intro id hid
    obtain ⟨place, hplace⟩ := hplaces id hid
    exact ⟨place, (cameIn_concat fun _ => hpresent id hid).mpr hplace⟩
  · refine horder.imp_of_mem fun hfirst hsecond hbefore => ?_
    exact before_concat (fun _ => hpresent _ hfirst) (fun _ => hpresent _ hsecond) hbefore

theorem filter_spared_add (new : EntityId) :
    ids.filter (Spared (steps ++ [.add new]) ·) = ids.filter (Spared steps ·) := by
  simp [spared_concat]

theorem filter_spared_delete (gone : EntityId) :
    ids.filter (Spared (steps ++ [.delete gone]) ·) =
      (ids.filter (Spared steps ·)).filter (· ≠ gone) := by
  rw [List.filter_filter]
  refine List.filter_congr fun id _ => ?_
  simp [spared_concat, and_comm, eq_comm]

theorem next (h : Arranged ids steps set) (step : Step) :
    Arranged ids (steps ++ [step]) (step.effect set) := by
  refine ⟨fun id => ?_, ?_⟩
  · rw [mem_effect, present_concat, h.mem_iff]
  · obtain ⟨added, hset, hplaces, horder⟩ := h.order
    have hpresent : ∀ id ∈ added, Present ids steps id := fun id hid =>
      (h.mem_iff id).mp (hset ▸ List.mem_append_right _ hid)
    obtain ⟨hplacesNext, horderNext⟩ := order_concat hpresent hplaces horder step
    cases step with
    | add new =>
        by_cases hnew : new ∈ set
        · refine ⟨added, ?_, hplacesNext, horderNext⟩
          rw [Step.effect, insert_of_mem hnew, filter_spared_add, hset]
        · have hlast := cameIn_last fun hthere => hnew ((h.mem_iff new).mpr hthere)
          refine ⟨added ++ [new], ?_, ?_, List.pairwise_append.mpr ⟨horderNext, ?_, ?_⟩⟩
          · rw [Step.effect, insert_of_not_mem hnew, filter_spared_add, hset, List.append_assoc]
          · simp only [List.mem_append, List.mem_singleton]
            rintro id (hid | rfl)
            · exact hplacesNext id hid
            · exact ⟨_, hlast⟩
          · exact List.pairwise_singleton _ _
          · simp only [List.mem_singleton]
            rintro id hid _ rfl
            obtain ⟨place, hplace⟩ := hplaces id hid
            exact ⟨place, _, (cameIn_concat fun _ => hpresent id hid).mpr hplace, hlast,
              hplace.lt_length⟩
    | delete gone =>
        refine ⟨added.filter (· ≠ gone), ?_, ?_, horderNext.filter _⟩
        · rw [Step.effect, filter_spared_delete, hset, List.filter_append]
        · exact fun id hid => hplacesNext id (List.mem_filter.mp hid).1

end Arranged

/-- What steps make of the members of a set. -/
def result (ids : List EntityId) (steps : List Step) : List EntityId :=
  steps.foldl (fun set step => step.effect set) ids

theorem arranged_result (ids : List EntityId) (steps : List Step) :
    Arranged ids steps (result ids steps) := by
  induction steps using List.reverseRecOn with
  | nil => exact .start
  | append_singleton steps step ih =>
      rw [result, List.foldl_append]
      exact ih.next step

theorem nodup_result (h : ids.Nodup) (steps : List Step) : (result ids steps).Nodup := by
  induction steps generalizing ids with
  | nil => exact h
  | cons step rest ih => exact ih (nodup_effect h step)

section Calls

variable (ev : Evaluator) (level : Nat) (set : List EntityId) (id : EntityId) (state : State)

theorem ssadd_eq : callNamed ev level "SSADD" [.entity id, .selection set] state =
    .done (.ok (.selection (insert id set))) state :=
  callNamed_ok ev level (show find? "SSADD" = some selections[2] from rfl) rfl rfl rfl state

theorem ssdel_eq : callNamed ev level "SSDEL" [.entity id, .selection set] state =
    .done (.ok (if id ∈ set then .selection (set.filter (· ≠ id)) else .nil)) state := by
  rw [callNamed_pure ev level (show find? "SSDEL" = some selections[3] from rfl) rfl rfl]
  change Comp.ofExcept (.ok (if set.contains id then Value.selection (set.filter (· ≠ id))
    else .nil)) state = _
  simp only [List.contains_iff_mem]
  rfl

theorem ssmemb_eq : callNamed ev level "SSMEMB" [.entity id, .selection set] state =
    .done (.ok (if id ∈ set then .entity id else .nil)) state := by
  rw [callNamed_pure ev level (show find? "SSMEMB" = some selections[4] from rfl) rfl rfl]
  change Comp.ofExcept (.ok (if set.contains id then Value.entity id else .nil)) state = _
  simp only [List.contains_iff_mem]
  rfl

theorem ssmemb_eq_entity_iff : callNamed ev level "SSMEMB" [.entity id, .selection set] state =
    .done (.ok (.entity id)) state ↔ id ∈ set := by
  rw [ssmemb_eq]
  by_cases hid : id ∈ set
  · simp [hid]
  · simp [hid]

theorem ssmemb_eq_nil_iff : callNamed ev level "SSMEMB" [.entity id, .selection set] state =
    .done (.ok .nil) state ↔ id ∉ set := by
  rw [ssmemb_eq]
  by_cases hid : id ∈ set
  · simp [hid]
  · simp [hid]

theorem ssdel_eq_nil_iff : callNamed ev level "SSDEL" [.entity id, .selection set] state =
    .done (.ok .nil) state ↔ id ∉ set := by
  rw [ssdel_eq]
  by_cases hid : id ∈ set
  · simp [hid]
  · simp [hid]

theorem sslength_eq : callNamed ev level "SSLENGTH" [.selection set] state =
    .done (.ok (.ofNat set.length)) state :=
  callNamed_ok ev level (show find? "SSLENGTH" = some selections[0] from rfl) rfl rfl rfl state

theorem ssname_eq (x : Float) : callNamed ev level "SSNAME" [.selection set, .number x] state =
    .done (.ok (member set x)) state :=
  callNamed_ok ev level (show find? "SSNAME" = some selections[1] from rfl) rfl rfl rfl state

theorem run_eq (step : Step) : step.run ev level (.selection set) state =
    .done (.ok (.selection (step.effect set))) state := by
  rw [Step.run, Comp.bind_apply]
  cases step with
  | add id =>
      change (callNamed ev level "SSADD" [.entity id, .selection set] state).bind _ = _
      rw [ssadd_eq]
      rfl
  | delete id =>
      change (callNamed ev level "SSDEL" [.entity id, .selection set] state).bind _ = _
      rw [ssdel_eq]
      by_cases hid : id ∈ set
      · rw [if_pos hid]
        rfl
      · have hkept : set.filter (· ≠ id) = set :=
          List.filter_eq_self.mpr fun other hother =>
            decide_eq_true (ne_of_mem_of_not_mem hother hid)
        rw [if_neg hid, Step.effect, hkept]
        rfl

/-- Steps one after the other. -/
def runAll : List Step → Value → Comp Value
  | [], set => pure set
  | step :: rest, set => do runAll rest (← step.run ev level set)

theorem runAll_eq (steps : List Step) (set : List EntityId) :
    runAll ev level steps (.selection set) state =
      .done (.ok (.selection (result set steps))) state := by
  induction steps generalizing set with
  | nil => rfl
  | cons step rest ih =>
      rw [runAll, Comp.bind_apply, run_eq]
      exact ih (step.effect set)

end Calls

/-- The members of a set, asked for one after the other. -/
structure Listed (ev : Evaluator) (level : Nat) (set : List EntityId) (state : State) : Prop where
  length : callNamed ev level "SSLENGTH" [.selection set] state =
    .done (.ok (.ofNat set.length)) state
  member : ∀ place < set.length, ∃ id ∈ set,
    callNamed ev level "SSNAME" [.selection set, .ofNat place] state =
      .done (.ok (.entity id)) state
  once : ∀ id ∈ set, ∃! place, place < set.length ∧
    callNamed ev level "SSNAME" [.selection set, .ofNat place] state =
      .done (.ok (.entity id)) state
  rest : ∀ x, Numeric.ofNat set.length ≤ x →
    callNamed ev level "SSNAME" [.selection set, .number x] state = .done (.ok .nil) state

theorem ssname_ofNat (ev : Evaluator) (level : Nat) (set : List EntityId) (state : State)
    {place : Nat} (hlt : place < 2 * Numeric.hiddenBit) :
    callNamed ev level "SSNAME" [.selection set, .ofNat place] state =
      .done (.ok (.ofOption (set[place]?.map .entity))) state := by
  refine (ssname_eq ev level set state (Numeric.ofNat place)).trans ?_
  rw [Selections.member, position?_ofNat hlt, Option.bind_some]

theorem listed (h : set.Nodup) (hlength : set.length < 2 * Numeric.hiddenBit) (ev : Evaluator)
    (level : Nat) (state : State) : Listed ev level set state := by
  have hname : ∀ place (hplace : place < set.length),
      callNamed ev level "SSNAME" [.selection set, .ofNat place] state =
        .done (.ok (.entity set[place])) state := by
    intro place hplace
    rw [ssname_ofNat ev level set state (hplace.trans hlength), List.getElem?_eq_getElem hplace]
    rfl
  constructor
  case length => exact sslength_eq ev level set state
  case member => exact fun place hplace => ⟨_, List.getElem_mem hplace, hname place hplace⟩
  case once =>
    intro id hid
    obtain ⟨place, hplace, rfl⟩ := List.getElem_of_mem hid
    refine ⟨place, ⟨hplace, hname place hplace⟩, ?_⟩
    rintro other ⟨hother, hcall⟩
    rw [hname other hother] at hcall
    exact (h.getElem_inj_iff).mp (Value.entity.inj (Except.ok.inj (Run.done.inj hcall).1))
  case rest =>
    intro x hx
    obtain ⟨place, hposition, hle⟩ := (ofNat_le_iff_position? hlength x).mp hx
    rw [ssname_eq, Selections.member, hposition, Option.bind_some, List.getElem?_eq_none hle]
    rfl

/-- A script that adds and deletes, step by step, has an ordered set. The set is listed by numbers,
which count exactly below `2 * Numeric.hiddenBit`. -/
theorem runAll_arranged (ids : List EntityId) (steps : List Step) (ev : Evaluator) (level : Nat)
    (state : State) :
    ∃ set, runAll ev level steps (.selection ids) state = .done (.ok (.selection set)) state ∧
      Arranged ids steps set ∧
      (∀ id, callNamed ev level "SSMEMB" [.entity id, .selection set] state =
          .done (.ok (.entity id)) state ↔ Present ids steps id) ∧
      (∀ id, callNamed ev level "SSMEMB" [.entity id, .selection set] state =
          .done (.ok .nil) state ↔ ¬Present ids steps id) ∧
      (∀ id, callNamed ev level "SSDEL" [.entity id, .selection set] state =
          .done (.ok .nil) state ↔ ¬Present ids steps id) ∧
      (ids.Nodup → set.Nodup ∧
        (set.length < 2 * Numeric.hiddenBit → Listed ev level set state)) := by
  have harranged := arranged_result ids steps
  refine ⟨result ids steps, runAll_eq ev level state steps ids, harranged, fun id => ?_,
    fun id => ?_, fun id => ?_, fun hids => ?_⟩
  · rw [ssmemb_eq_entity_iff, harranged.mem_iff]
  · rw [ssmemb_eq_nil_iff, harranged.mem_iff]
  · rw [ssdel_eq_nil_iff, harranged.mem_iff]
  · have hnodup := nodup_result hids steps
    exact ⟨hnodup, fun hlength => listed hnodup hlength ev level state⟩

/-- The member 1 goes and comes back, the new member 4 too, and 9 was never there. -/
def changes : List Step := [.add 4, .delete 1, .delete 9, .add 1, .delete 4, .add 2, .add 4]

theorem runAll_arranged_changes :
    [3, 1, 2].Nodup ∧
      ∃ set, runAll (fun _ _ => .pure .nil) 0 changes (.selection [3, 1, 2]) default =
          .done (.ok (.selection set)) default ∧
        set = [3, 2, 1, 4] ∧ Arranged [3, 1, 2] changes set ∧ set.Nodup ∧
        Listed (fun _ _ => .pure .nil) 0 set default := by
  have hids : [3, 1, 2].Nodup := by decide
  obtain ⟨set, hrun, harranged, -, -, -, hlisted⟩ :=
    runAll_arranged [3, 1, 2] changes (fun _ _ => .pure .nil) 0 default
  have hset : set = [3, 2, 1, 4] := by
    have hvalue := hrun.symm.trans (runAll_eq _ 0 default changes [3, 1, 2])
    exact Value.selection.inj (Except.ok.inj (Run.done.inj hvalue).1)
  obtain ⟨hnodup, hlisted⟩ := hlisted hids
  exact ⟨hids, set, hrun, hset, harranged, hnodup, hlisted (by rw [hset]; decide)⟩

end DraftLisp.Builtin.Selections

import DraftLisp.Proofs.Builtin.Counted
import DraftLisp.Proofs.Builtin.Demanded
import DraftLisp.Proofs.Entity.Slots

namespace DraftLisp

namespace Builtin

section Edits

open Editing

/-- A change of the drawing that fails with no error about the number of operands. -/
def CountedEdit (step : Edit α) : Prop := ∀ drawing, Counted (step drawing).1

theorem CountedEdit.bind {step : Edit α} {next : α → Edit β} (h : CountedEdit step)
    (hnext : ∀ result, CountedEdit (next result)) : CountedEdit (step >>= next) := by
  intro drawing
  rw [edit_bind_apply]
  rcases hstep : step drawing with ⟨outcome, changed⟩
  have hcounted := h drawing
  rw [hstep] at hcounted
  cases hcounted with
  | ok result => exact hnext result changed
  | error h => exact .error h

theorem countedEdit_pure (value : α) : CountedEdit (pure value) := fun _ => .ok value

theorem countedEdit_throw {error : Error} (h : error.isArity = false) :
    CountedEdit (throw error : Edit α) :=
  fun _ => .error h

theorem countedEdit_lift {result : Except Error α} (h : Counted result) :
    CountedEdit (lift result) :=
  fun _ => h

theorem countedEdit_change (step : Drawing → Drawing) : CountedEdit (change step) := fun _ => .ok ()

theorem countedEdit_ask (question : Drawing → α) : CountedEdit (ask question) := fun _ => .ok _

theorem countedEdit_attempt (step : Drawing → Except HostFault Drawing) :
    CountedEdit (attempt step) := by
  intro drawing
  unfold attempt
  cases step drawing with
  | ok changed => exact .ok ()
  | error fault => exact .error rfl

theorem countedEdit_undoStep (label : String) {step : Edit α} (h : CountedEdit step) :
    CountedEdit (undoStep label step) :=
  (countedEdit_change _).bind fun _ => h.bind fun result =>
    (countedEdit_change _).bind fun _ => countedEdit_pure result

theorem countedEdit_existing (operator : String) (id : EntityId) :
    CountedEdit (existing operator id) := by
  refine (countedEdit_ask _).bind fun found => ?_
  cases found with
  | none => exact countedEdit_throw rfl
  | some entity => exact countedEdit_pure entity

section Operands

variable {operands : List Value} {index : Nat} (h : index < operands.length)

include h

/-- An operand that is there is read. -/
theorem countedEdit_operand : CountedEdit (operand operands index) := by
  unfold operand
  rw [List.getElem?_eq_getElem h]
  exact countedEdit_lift (.ok _)

theorem countedEdit_read {reader : Reader α} {next : α → Edit β}
    (hreader : ∀ value, Counted (reader value)) (hnext : ∀ result, CountedEdit (next result)) :
    CountedEdit (do next (← lift (reader (← operand operands index)))) :=
  (countedEdit_operand h).bind fun value => (countedEdit_lift (hreader value)).bind hnext

end Operands

theorem counted_pairs (list : Value) : Counted (Groups.pairs list) := by
  unfold Groups.pairs
  split
  · exact .ok _
  · exact .error rfl

theorem counted_overwrite (list : Value) (data : EntityData) :
    Counted (Groups.overwrite list data) := by
  unfold Groups.overwrite
  cases hpairs : Groups.pairs list with
  | error error =>
      have hcounted := counted_pairs list
      simp only [Groups.overwriting, hpairs] at hcounted ⊢
      cases hcounted with
      | error h => exact .error h
  | ok entries =>
      by_cases h : ∀ entry ∈ entries, data.shape.Admits entry
      · obtain ⟨changed, hchanged, -⟩ := Groups.overwriting_of_admits hpairs h
        rw [hchanged]
        exact .ok changed
      · obtain ⟨reached, fault, hreached⟩ :=
          Groups.overwriting_of_not_admits hpairs (by simpa using h)
        rw [hreached]
        exact .error rfl

theorem counted_groupText (code : Int) (value : Value) : Counted (Groups.text code value) := by
  cases value with
  | string content => exact .ok content
  | _ => exact .error rfl

theorem counted_create (list : Value) (layer : String) : Counted (Groups.create list layer) := by
  refine (counted_pairs list).bind fun entries => ?_
  cases entries.lookup 0 with
  | none => exact .error rfl
  | some value =>
      refine (counted_groupText 0 value).bind fun name => ?_
      simp only
      split
      · exact .error rfl
      · exact counted_overwrite _ _

section Operators

variable {operands : List Value}

theorem countedEdit_writing (spell : Value → String) (operands : List Value) :
    CountedEdit (writing spell operands) := by
  cases operands with
  | nil => exact countedEdit_pure _
  | cons value rest => exact (countedEdit_change _).bind fun _ => countedEdit_pure _

theorem countedEdit_prompt (h : 1 ≤ operands.length) : CountedEdit (prompt operands) :=
  countedEdit_read h counted_expectString fun _ =>
    (countedEdit_change _).bind fun _ => countedEdit_pure _

theorem countedEdit_terpri (operands : List Value) : CountedEdit (terpri operands) :=
  (countedEdit_change _).bind fun _ => countedEdit_pure _

theorem countedEdit_alert (h : 1 ≤ operands.length) : CountedEdit (alert operands) :=
  (countedEdit_operand h).bind fun _ => (countedEdit_change _).bind fun _ => countedEdit_pure _

theorem countedEdit_distance (h : 2 ≤ operands.length) : CountedEdit (distance operands) :=
  countedEdit_read (by omega) counted_expectPoint fun _ =>
    countedEdit_read h counted_expectPoint fun _ => countedEdit_pure _

theorem countedEdit_angle (h : 2 ≤ operands.length) : CountedEdit (angle operands) :=
  countedEdit_read (by omega) counted_expectPoint fun _ =>
    countedEdit_read h counted_expectPoint fun _ => countedEdit_pure _

theorem countedEdit_polar (h : 3 ≤ operands.length) : CountedEdit (polar operands) :=
  countedEdit_read (by omega) counted_expectPoint fun _ =>
    countedEdit_read (by omega) counted_expectNumber fun _ =>
      countedEdit_read h counted_expectNumber fun _ => countedEdit_pure _

theorem countedEdit_inters (h : 4 ≤ operands.length) : CountedEdit (inters operands) :=
  countedEdit_read (by omega) counted_expectPoint fun _ =>
    countedEdit_read (by omega) counted_expectPoint fun _ =>
      countedEdit_read (by omega) counted_expectPoint fun _ =>
        countedEdit_read h counted_expectPoint fun _ => countedEdit_pure _

theorem countedEdit_entget (h : 1 ≤ operands.length) : CountedEdit (entget operands) :=
  countedEdit_read h counted_expectEntity fun _ =>
    (countedEdit_ask _).bind fun _ => countedEdit_pure _

theorem countedEdit_entmod (h : 1 ≤ operands.length) : CountedEdit (entmod operands) := by
  refine (countedEdit_operand h).bind fun list => ?_
  split
  · exact countedEdit_throw rfl
  · refine (countedEdit_existing _ _).bind fun entity => ?_
    refine (countedEdit_lift (counted_overwrite _ _)).bind fun data => ?_
    exact (countedEdit_undoStep _ (countedEdit_attempt _)).bind fun _ => countedEdit_pure _

theorem countedEdit_entmake (h : 1 ≤ operands.length) : CountedEdit (entmake operands) := by
  refine (countedEdit_operand h).bind fun list => ?_
  refine (countedEdit_ask _).bind fun layer => ?_
  refine (countedEdit_lift (counted_create _ _)).bind fun data => ?_
  exact (countedEdit_undoStep _ (countedEdit_change _)).bind fun _ => countedEdit_pure _

theorem countedEdit_entdel (h : 1 ≤ operands.length) : CountedEdit (entdel operands) := by
  refine countedEdit_read h counted_expectEntity fun id => ?_
  refine (countedEdit_existing _ _).bind fun _ => ?_
  exact (countedEdit_undoStep _ (countedEdit_attempt _)).bind fun _ => countedEdit_pure _

theorem countedEdit_entnext (operands : List Value) : CountedEdit (entnext operands) := by
  refine (countedEdit_ask _).bind fun ids => ?_
  cases operands with
  | nil => exact countedEdit_pure _
  | cons after rest =>
      exact (countedEdit_lift (counted_expectEntity after)).bind fun _ => countedEdit_pure _

theorem countedEdit_entlast (operands : List Value) : CountedEdit (entlast operands) :=
  (countedEdit_ask _).bind fun _ => countedEdit_pure _

theorem countedEdit_entupd (h : 1 ≤ operands.length) : CountedEdit (entupd operands) :=
  countedEdit_read h counted_expectEntity fun _ => (countedEdit_existing _ _).bind fun _ =>
    (countedEdit_change _).bind fun _ => countedEdit_pure _

theorem counted_commandName (value : Value) : Counted (commandName value) :=
  (counted_expectString value).bind fun _ => .ok _

theorem countedEdit_feed (value : Value) : CountedEdit (feed value) := by
  unfold feed
  split
  · exact (countedEdit_change _).bind fun _ => countedEdit_change _
  · exact (countedEdit_change _).bind fun _ => countedEdit_change _

theorem countedEdit_feedAll (values : List Value) : CountedEdit (feedAll values) := by
  induction values with
  | nil => exact countedEdit_pure _
  | cons value rest ih => exact (countedEdit_feed value).bind fun _ => ih

theorem countedEdit_command (operands : List Value) : CountedEdit (command operands) := by
  cases operands with
  | nil => exact (countedEdit_change _).bind fun _ => countedEdit_pure _
  | cons first rest =>
      refine (countedEdit_lift (counted_commandName first)).bind fun name => ?_
      refine (countedEdit_undoStep _ ?_).bind fun _ => countedEdit_pure _
      exact (countedEdit_attempt _).bind fun _ => (countedEdit_change _).bind fun _ =>
        countedEdit_feedAll rest

theorem countedEdit_commandAtOnce (h : 1 ≤ operands.length) :
    CountedEdit (commandAtOnce operands) :=
  countedEdit_read h counted_commandName fun _ =>
    (countedEdit_undoStep _ (countedEdit_attempt _)).bind fun _ => countedEdit_pure _

theorem countedEdit_getvar (h : 1 ≤ operands.length) : CountedEdit (getvar operands) := by
  refine countedEdit_read h counted_expectString fun name => ?_
  refine (countedEdit_ask _).bind fun found => ?_
  rcases found with _ | (value | content)
  · exact countedEdit_pure _
  · exact countedEdit_pure _
  · exact countedEdit_pure _

theorem countedEdit_setvar (h : 2 ≤ operands.length) : CountedEdit (setvar operands) := by
  refine countedEdit_read (by omega) counted_expectString fun name => ?_
  refine (countedEdit_operand h).bind fun value => ?_
  cases value with
  | number x => exact (countedEdit_change _).bind fun _ => countedEdit_pure _
  | string content => exact (countedEdit_change _).bind fun _ => countedEdit_pure _
  | _ => exact (countedEdit_throw rfl).bind fun _ => countedEdit_pure _

theorem settled_edit {name : String} {arity : Arity} {run : List Value → Edit Value}
    (h : ∀ operands, arity.least ≤ operands.length → CountedEdit (run operands)) :
    Settled ⟨name, arity, .edit run⟩ :=
  fun operands haccepts => h operands (Arity.least_le haccepts)

theorem settled_editing : ∀ operator ∈ editing, operator.Settled := by
  simp only [editing, List.forall_mem_cons]
  refine ⟨settled_edit fun _ _ => countedEdit_writing _ _,
    settled_edit fun _ _ => countedEdit_writing _ _,
    settled_edit fun _ _ => countedEdit_writing _ _,
    settled_edit fun _ => countedEdit_prompt, settled_edit fun _ _ => countedEdit_terpri _,
    settled_edit fun _ => countedEdit_alert, settled_edit fun _ => countedEdit_distance,
    settled_edit fun _ => countedEdit_angle, settled_edit fun _ => countedEdit_polar,
    settled_edit fun _ => countedEdit_inters, settled_edit fun _ => countedEdit_entget,
    settled_edit fun _ => countedEdit_entmod, settled_edit fun _ => countedEdit_entmake,
    settled_edit fun _ => countedEdit_entdel, settled_edit fun _ _ => countedEdit_entnext _,
    settled_edit fun _ _ => countedEdit_entlast _, settled_edit fun _ => countedEdit_entupd,
    settled_edit fun _ _ => countedEdit_command _, settled_edit fun _ => countedEdit_commandAtOnce,
    settled_edit fun _ => countedEdit_getvar, settled_edit fun _ => countedEdit_setvar, by simp⟩

end Operators

end Edits

section Inputs

open Asking

/-- A demand for input that fails with no error about the number of operands. -/
def CountedDemand (ask : List Value → Drawing → Except Error Demand) (least : Nat) : Prop :=
  ∀ operands, least ≤ operands.length → ∀ drawing, Counted (ask operands drawing)

theorem counted_promptAndBase (operands : List Value) (found : String × Option Point) :
    Counted (promptAndBase operands found) := by
  fun_induction promptAndBase operands found with
  | case1 found => exact .ok found
  | case2 text rest prompt base ih => exact ih
  | case3 rest found ih => exact ih
  | case4 value rest prompt base _ _ ih => exact (counted_expectPoint value).bind ih

theorem countedDemand_requestFor (kind : InputKind) (least : Nat) :
    CountedDemand (requestFor kind) least :=
  fun operands _ _ => (counted_promptAndBase operands _).bind fun _ => .ok _

theorem countedDemand_requestCorner : CountedDemand requestCorner 1 := by
  intro operands hlength drawing
  cases operands with
  | nil => cases hlength
  | cons base rest =>
      exact (counted_expectPoint base).bind fun _ =>
        countedDemand_requestFor .corner 0 _ (Nat.zero_le _) drawing

theorem countedDemand_requestString : CountedDemand requestString 0 :=
  fun _ _ drawing => countedDemand_requestFor .string 0 _ (Nat.zero_le _) drawing

theorem counted_selectAll (filter : Option Value) (drawing : Drawing) :
    Counted (selectAll filter drawing) := by
  cases filter with
  | none => exact .ok _
  | some list => exact (counted_expectList list).bind fun _ => .ok _

theorem countedDemand_selectEntities : CountedDemand selectEntities 0 := by
  intro operands _ drawing
  unfold selectEntities
  split
  · split
    · exact (counted_selectAll _ _).bind fun _ => .ok _
    · exact .error rfl
  · exact .ok _

theorem settled_input {name : String} {arity : Arity}
    {ask : List Value → Drawing → Except Error Demand} (h : CountedDemand ask arity.least) :
    Settled ⟨name, arity, .input ask⟩ :=
  fun operands haccepts => h operands (Arity.least_le haccepts)

theorem settled_asking : ∀ operator ∈ asking, operator.Settled := by
  simp only [asking, List.forall_mem_cons]
  refine ⟨settled_input (countedDemand_requestFor _ _), settled_input countedDemand_requestCorner,
    settled_input (countedDemand_requestFor _ _), settled_input (countedDemand_requestFor _ _),
    settled_input (countedDemand_requestFor _ _), settled_input (countedDemand_requestFor _ _),
    settled_input countedDemand_requestString, settled_input (countedDemand_requestFor _ _),
    settled_input (countedDemand_requestFor _ _), settled_input countedDemand_selectEntities,
    by simp⟩

end Inputs

theorem settled_controls : ∀ operator ∈ controls, operator.Settled := by
  simp only [controls, List.forall_mem_cons]
  refine ⟨fun operands haccepts => ?_, fun operands haccepts => ?_, fun operands haccepts => ?_,
    by simp⟩
  · have hlength : 2 ≤ operands.length := Arity.least_le haccepts
    obtain _ | ⟨head, _ | ⟨first, lists⟩⟩ := operands
    · cases hlength
    · exact absurd hlength (by simp)
    · exact ⟨head, first, lists, rfl⟩
  · have hlength := Arity.eq_of_accepts_exactly haccepts
    obtain _ | ⟨head, _ | ⟨list, _ | ⟨other, rest⟩⟩⟩ := operands
    · cases hlength
    · cases hlength
    · exact ⟨head, list, rfl⟩
    · cases hlength
  · have hlength := Arity.eq_of_accepts_exactly haccepts
    exact List.length_eq_one_iff.mp hlength

/-- Every call of an operator with an accepted number of operands comes to a value or to an error
that is none about the number of operands, but for texts that are too long. -/
theorem settled_all : ∀ operator ∈ all, operator.Settled := by
  intro operator hoperator
  simp only [all, List.mem_append] at hoperator
  rcases hoperator with (((((((h | h) | h) | h) | h) | h) | h) | h) | h
  · exact settled_arithmetic operator h
  · exact settled_comparisons operator h
  · exact settled_lists operator h
  · exact settled_texts operator h
  · exact settled_predicates operator h
  · exact settled_selections operator h
  · exact settled_editing operator h
  · exact settled_asking operator h
  · exact settled_controls operator h

end Builtin

end DraftLisp

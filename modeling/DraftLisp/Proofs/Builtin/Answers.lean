import DraftLisp.Proofs.Evaluation.Application
import DraftLisp.Proofs.Input.Encodings
import DraftLisp.Proofs.Numeric.Truncated
import DraftLisp.Value.Expect

namespace DraftLisp

namespace Answer

open Numeric

/-- The shape that a script expects of an answer that is not nil. -/
inductive Shaped : InputKind → Value → Prop
  | point (x y z : Float) : Shaped .point (.list [.number x, .number y, .number z])
  | corner (x y z : Float) : Shaped .corner (.list [.number x, .number y, .number z])
  | dist (x : Float) : Shaped .dist (.number x)
  | real (x : Float) : Shaped .real (.number x)
  | angle (x : Float) : Shaped .angle (.number x)
  | int {x : Float} : trunc x = x → Shaped .int (.number x)
  | string (text : String) : Shaped .string (.string text)
  | keyword (text : String) : Shaped .keyword (.string text)
  | entsel (id : EntityId) (x y z : Float) :
      Shaped .entsel (.list [.entity id, .list [.number x, .number y, .number z]])
  | ssget {ids : List EntityId} : ids ≠ [] → Shaped .ssget (.selection ids)

variable {kind : InputKind} {raw : Json} {value : Value}

theorem Shaped.ne_nil (h : Shaped kind value) : value ≠ .nil := by
  cases h <;> exact Value.noConfusion

/-- Every operator on places takes the answer for one. -/
theorem Shaped.expectPoint (h : Shaped kind value) (hkind : kind = .point ∨ kind = .corner) :
    ∃ place, value.expectPoint = .ok place := by
  cases h with
  | point x y z | corner x y z => exact ⟨⟨x, y⟩, rfl⟩
  | _ => simp at hkind

theorem EncodesPlace.eq_pointValue {place : Value} (h : EncodesPlace raw place) :
    ∃ x y z, place = pointValue x y z := by
  cases h <;> exact ⟨_, _, _, rfl⟩

theorem EncodesPick.eq_list {pick : Value} (h : EncodesPick raw pick) :
    ∃ id x y z, pick = .list [.entity id, pointValue x y z] := by
  cases h with
  | members _ _ hplace | two hplace =>
      obtain ⟨x, y, z, rfl⟩ := hplace.eq_pointValue
      exact ⟨_, x, y, z, rfl⟩

theorem Encodes.shaped (h : Encodes kind raw value) :
    Shaped kind value ∨ value = .nil ∧ (raw = .null ∨ kind = .ssget ∧ raw = .array []) := by
  cases h with
  | null => exact .inr ⟨rfl, .inl rfl⟩
  | point hplace =>
      obtain ⟨x, y, z, rfl⟩ := hplace.eq_pointValue
      exact .inl (.point x y z)
  | corner hplace =>
      obtain ⟨x, y, z, rfl⟩ := hplace.eq_pointValue
      exact .inl (.corner x y z)
  | dist _ => exact .inl (.dist _)
  | real _ => exact .inl (.real _)
  | angle _ => exact .inl (.angle _)
  | int _ => exact .inl (.int (trunc_trunc _))
  | string _ => exact .inl (.string _)
  | keyword _ => exact .inl (.keyword _)
  | entsel hpick =>
      obtain ⟨id, x, y, z, rfl⟩ := hpick.eq_list
      exact .inl (.entsel id x y z)
  | nothing => exact .inr ⟨rfl, .inr ⟨rfl, rfl⟩⟩
  | ssget hids => exact .inl (.ssget hids)

theorem value_of_encodes (h : Encodes kind raw value) : Answer.value kind raw = value := by
  rw [value_eq_getD, value?_eq_some_iff.mpr h]
  rfl

theorem value_of_not_encodes (h : ¬∃ other, Encodes kind raw other) :
    Answer.value kind raw = .nil := by
  rw [value_eq_getD]
  cases hvalue : value? kind raw with
  | none => rfl
  | some other => exact absurd ⟨other, value?_eq_some_iff.mp hvalue⟩ h

/-- What a script receives for an answer. -/
structure Delivers (kind : InputKind) (raw : Json) (value : Value) : Prop where
  shape : value = .nil ∨ Shaped kind value ∧ Encodes kind raw value
  nil_iff : value = .nil ↔
    raw = .null ∨ (kind = .ssget ∧ raw = .array []) ∨ ¬∃ other, Encodes kind raw other
  /-- Nothing is left out of a value that is encoded. -/
  whole : ∀ other, Encodes kind raw other → value = other
  place : kind = .point ∨ kind = .corner → value ≠ .nil → ∃ place, value.expectPoint = .ok place

theorem delivers_value (kind : InputKind) (raw : Json) :
    Delivers kind raw (Answer.value kind raw) := by
  by_cases hencodes : ∃ other, Encodes kind raw other
  · obtain ⟨other, hother⟩ := hencodes
    rw [value_of_encodes hother]
    have hwhole (another : Value) (h : Encodes kind raw another) : other = another :=
      (value_of_encodes hother).symm.trans (value_of_encodes h)
    rcases hother.shaped with hshaped | ⟨rfl, hraw⟩
    · -- Were the answer null or an empty selection, its value would be nil as well as in shape.
      refine ⟨.inr ⟨hshaped, hother⟩, ?_, hwhole, fun hkind _ => hshaped.expectPoint hkind⟩
      refine iff_of_false hshaped.ne_nil ?_
      rintro (rfl | ⟨rfl, rfl⟩ | hnone)
      · exact hshaped.ne_nil (hwhole .nil (.null kind))
      · exact hshaped.ne_nil (hwhole .nil .nothing)
      · exact hnone ⟨other, hother⟩
    · refine ⟨.inl rfl, iff_of_true rfl ?_, hwhole, fun _ h => absurd rfl h⟩
      exact hraw.imp_right .inl
  · rw [value_of_not_encodes hencodes]
    exact ⟨.inl rfl, iff_of_true rfl (.inr (.inr hencodes)),
      fun other hother => absurd ⟨other, hother⟩ hencodes, fun _ h => absurd rfl h⟩

end Answer

namespace Broker

theorem poll_settle_of_slot {broker : Broker} {ticket : Ticket} {request : Request}
    (h : broker.slot = some (ticket, request)) (outcome : Request → Settlement) :
    ∃ after, (broker.settle outcome).poll ticket = some (outcome request, after) := by
  have hlookup : (broker.settle outcome).settled.lookup ticket = some (outcome request) := by
    rw [settled_settle_of_slot h, List.lookup_cons_self]
  unfold poll
  rw [hlookup]
  exact ⟨_, rfl⟩

end Broker

theorem Comp.eq_of_request_waiting {wanted request : Request} {state shown : State}
    {resume : Settlement → Run Value}
    (h : Comp.request wanted state = .waiting request shown resume) (outcome : Settlement) :
    resume outcome = .done (outcome.mapError .error) shown := by
  unfold Comp.request at h
  simp only [Run.waiting.injEq] at h
  obtain ⟨-, rfl, rfl⟩ := h
  cases outcome <;> rfl

section Calls

variable {ev : Evaluator} {level : Nat} {operator : Builtin} {operands : List Value}
  {ask : List Value → Drawing → Except Error Demand} {state shown : State} {request : Request}
  {resume : Settlement → Run Value}

/-- A call that waits does so for what its operator asks. -/
theorem asked_of_apply_waiting (haction : operator.action = .input ask)
    (h : apply ev level (.builtin operator) operands state = .waiting request shown resume) :
    ask operands state.drawing = .ok (.asked request) ∧
      Comp.request request state = .waiting request shown resume := by
  cases hcheck : operator.arity.check operands.length with
  | error error =>
      rw [apply_of_check_error hcheck] at h
      cases h
  | ok _ =>
      rw [apply_input hcheck haction, Comp.bind_apply] at h
      simp only [Comp.observe, Run.bind] at h
      cases hask : ask operands state.drawing with
      | error error =>
          rw [hask] at h
          cases h
      | ok demand =>
          rw [hask] at h
          cases demand with
          | answered found => cases h
          | asked wanted =>
              obtain rfl : wanted = request := (Run.waiting.inj h).1
              exact ⟨rfl, h⟩

/-- An operator that asks returns what it is answered. -/
theorem resume_of_apply_waiting (haction : operator.action = .input ask)
    (h : apply ev level (.builtin operator) operands state = .waiting request shown resume)
    (outcome : Settlement) : resume outcome = .done (outcome.mapError .error) shown :=
  Comp.eq_of_request_waiting (asked_of_apply_waiting haction h).2 outcome

/-- When the user answers the open request, the operator that made it is handed an outcome at its
next poll, and returns what that delivers. -/
theorem delivers_of_waiting (haction : operator.action = .input ask)
    (hwaits : apply ev level (.builtin operator) operands state = .waiting request shown resume)
    {broker : Broker} {ticket : Ticket} (hslot : broker.slot = some (ticket, request))
    (raw : Json) :
    ∃ value after, (broker.resolve raw).poll ticket = some (.ok value, after) ∧
      resume (.ok value) = .done (.ok value) shown ∧ Answer.Delivers request.kind raw value := by
  obtain ⟨after, hpoll⟩ := Broker.poll_settle_of_slot hslot _
  exact ⟨_, after, hpoll, resume_of_apply_waiting haction hwaits _,
    Answer.delivers_value request.kind raw⟩

theorem delivers_of_waiting_entsel :
    let operator : Builtin := ⟨"ENTSEL", .between 0 1, .input (Builtin.Asking.requestFor .entsel)⟩
    let request : Request := ⟨.entsel, "", none⟩
    let state : State := { Session.empty with frame := [] }
    let raw : Json := .array [Answer.identifier 4, .array [.integer 2, .float 0.5]]
    let pick : Value := .list [.entity 4, Answer.pointValue (Numeric.ofInt 2) 0.5 0.0]
    ∃ resume, apply (eval 10 10 10) 1 (.builtin operator) [] state = .waiting request state resume ∧
      ∃ after, ((Broker.empty.request request).2.resolve raw).poll 0 = some (.ok pick, after) ∧
        resume (.ok pick) = .done (.ok pick) state ∧ Answer.Delivers .entsel raw pick := by
  intro operator request state raw pick
  have hcheck : operator.arity.check ([] : List Value).length = .ok () := rfl
  have haction : operator.action = .input (Builtin.Asking.requestFor .entsel) := rfl
  have hwaits : ∃ resume, apply (eval 10 10 10) 1 (.builtin operator) [] state =
      .waiting request state resume := by
    rw [apply_input hcheck haction]
    exact ⟨_, rfl⟩
  obtain ⟨resume, hwaits⟩ := hwaits
  have hslot : (Broker.empty.request request).2.slot = some (0, request) := rfl
  obtain ⟨value, after, hpoll, hresume, hdelivers⟩ := delivers_of_waiting haction hwaits hslot raw
  obtain rfl := hdelivers.whole pick (.entsel (.two (.two (.integer 2) (.float 0.5))))
  exact ⟨resume, hwaits, after, hpoll, hresume, hdelivers⟩

end Calls

end DraftLisp

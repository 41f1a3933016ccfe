import DraftLisp.Builtin.Registry
import DraftLisp.Proofs.Evaluation.Application
import DraftLisp.Proofs.Numeric.Difference
import DraftLisp.Proofs.Simulation.Values

namespace DraftLisp

/-- A number in the value, at any depth of lists, is infinite. -/
inductive Value.HoldsInfinite : Value → Prop
  | number {x : Float} : x.isInf = true → HoldsInfinite (.number x)
  | list {items : List Value} {item : Value} :
      item ∈ items → item.HoldsInfinite → HoldsInfinite (.list items)

namespace Value

variable {xs ys : List Value}

theorem beqItems_iff :
    beqItems xs ys = true ↔ List.Forall₂ (fun x y => (x == y) = true) xs ys := by
  induction xs generalizing ys with
  | nil => cases ys <;> simp [beqItems]
  | cons x xs ih =>
      cases ys with
      | nil => simp [beqItems]
      | cons y ys =>
          rw [beqItems, Bool.and_eq_true, ih, List.forall₂_cons]
          rfl

theorem list_beq_list_iff :
    (list xs == list ys) = true ↔ List.Forall₂ (fun x y => (x == y) = true) xs ys :=
  beqItems_iff

end Value

namespace Builtin.Comparison

variable {a b : Value} {xs ys : List Value} {fuzz : Float}

theorem equalItems_iff :
    equalItems fuzz xs ys = true ↔
      List.Forall₂ (fun x y => equalWithin fuzz x y = true) xs ys := by
  induction xs generalizing ys with
  | nil => cases ys <;> simp [equalItems]
  | cons x xs ih =>
      cases ys with
      | nil => simp [equalItems]
      | cons y ys => rw [equalItems, Bool.and_eq_true, ih, List.forall₂_cons]

theorem equalWithin_list_iff :
    equalWithin fuzz (.list xs) (.list ys) = true ↔
      List.Forall₂ (fun x y => equalWithin fuzz x y = true) xs ys := by
  rw [equalWithin, equalItems_iff]

/-- An element of one list has the same partner in both relations of the lists. -/
theorem exists_of_mem_forall₂ {R Q : Value → Value → Prop} {x : Value}
    (hR : List.Forall₂ R xs ys) (hQ : List.Forall₂ Q xs ys) (hx : x ∈ xs) :
    ∃ y, R x y ∧ Q x y := by
  induction hR with
  | nil => cases hx
  | cons hfirst _ ih =>
      cases hQ with
      | cons hfirst' hrest =>
          rcases List.mem_cons.mp hx with rfl | hx
          · exact ⟨_, hfirst, hfirst'⟩
          · exact ih hrest hx

theorem equalWithin_of_beq (hfuzz : 0.0 ≤ fuzz) (h : (a == b) = true) (ha : ¬a.HoldsInfinite) :
    equalWithin fuzz a b = true := by
  induction a using Value.induction generalizing b with
  | number x =>
      cases b with
      | number y =>
          have hx : x.isInf = false := by
            simpa using fun hinf => ha (.number hinf)
          rw [equalWithin, Numeric.abs_sub_of_beq h hx]
          exact decide_eq_true hfuzz
      | _ => cases h
  | list items ih =>
      cases b with
      | list others =>
          refine equalWithin_list_iff.mpr (Simulation.forall₂_of_mem
            (Value.list_beq_list_iff.mp h) ?_)
          intro item hitem other hequal
          exact ih item hitem hequal fun hinf => ha (.list hitem hinf)
      | _ => exact h
  | _ => exact h

theorem not_equalWithin_of_beq (h : (a == b) = true) (ha : a.HoldsInfinite) (fuzz : Float) :
    equalWithin fuzz a b = false := by
  induction ha generalizing b with
  | number hinf =>
      cases b with
      | number y =>
          rw [equalWithin]
          exact decide_eq_false (Numeric.not_abs_sub_le_of_beq h hinf fuzz)
      | _ => cases h
  | list hitem _ ih =>
      cases b with
      | list others =>
          refine Bool.eq_false_iff.mpr fun hequal => ?_
          obtain ⟨other, hbeq, hother⟩ := exists_of_mem_forall₂ (Value.list_beq_list_iff.mp h)
            (equalWithin_list_iff.mp hequal) hitem
          rw [ih hbeq] at hother
          cases hother
      | nil =>
          rw [List.isEmpty_iff.mp h] at hitem
          cases hitem
      | _ => cases h

section Calls

variable (ev : Evaluator) (level : Nat) (state : State)

theorem eq_call (a b : Value) : callNamed ev level "EQ" [a, b] state =
    .done (.ok (.ofBool (a == b))) state :=
  callNamed_ok ev level (show find? "EQ" = some comparisons[6] from rfl) rfl rfl rfl state

theorem equal_call (a b : Value) (fuzz : Option Float) :
    callNamed ev level "EQUAL" (a :: b :: fuzz.toList.map .number) state =
      .done (.ok (.ofBool (equalWithin (fuzz.getD 0.0) a b))) state := by
  have hfind : find? "EQUAL" = some comparisons[7] := rfl
  cases fuzz with
  | none => exact callNamed_ok ev level hfind rfl rfl rfl state
  | some x => exact callNamed_ok ev level hfind rfl rfl rfl state

theorem beq_of_eq_call (h : callNamed ev level "EQ" [a, b] state = .done (.ok .truth) state) :
    (a == b) = true := by
  rw [eq_call] at h
  cases hequal : a == b with
  | true => rfl
  | false =>
      rw [hequal] at h
      cases h

/-- Values that `EQ` takes for equal are equal for `EQUAL`, with or without a difference that is
allowed, as long as no infinite number stands in them. If one does, then they are not. -/
theorem equal_of_eq {fuzz : Option Float} (hfuzz : ∀ x ∈ fuzz, 0.0 ≤ x)
    (h : callNamed ev level "EQ" [a, b] state = .done (.ok .truth) state) :
    (¬a.HoldsInfinite → callNamed ev level "EQUAL" (a :: b :: fuzz.toList.map .number) state =
        .done (.ok .truth) state) ∧
      (a.HoldsInfinite → callNamed ev level "EQUAL" (a :: b :: fuzz.toList.map .number) state =
        .done (.ok .nil) state) := by
  have hbeq := beq_of_eq_call ev level state h
  have hallowed : 0.0 ≤ fuzz.getD 0.0 := by
    cases fuzz with
    | none => decide +kernel
    | some x => exact hfuzz x rfl
  rw [equal_call]
  constructor
  · intro ha
    rw [equalWithin_of_beq hallowed hbeq ha]
    rfl
  · intro ha
    rw [not_equalWithin_of_beq hbeq ha]
    rfl

end Calls

/-- Zeros of either sign and the empty list in both of its shapes. -/
def signedZeros : Value × Value :=
  (.list [.number 0.0, .list [.string "x", .nil]],
    .list [.number (-0.0), .list [.string "x", .list []]])

theorem not_holdsInfinite_signedZeros : ¬signedZeros.1.HoldsInfinite := by
  rintro (- | ⟨hitem, hinf⟩)
  rcases List.mem_pair.mp hitem with rfl | rfl
  · obtain ⟨⟨⟩⟩ := hinf
  · obtain - | ⟨hitem, hinf⟩ := hinf
    rcases List.mem_pair.mp hitem with rfl | rfl <;> cases hinf

theorem equal_of_eq_signedZeros :
    ((∀ x ∈ some 0.5, 0.0 ≤ x) ∧
      callNamed (fun _ _ => .pure .nil) 0 "EQ" [signedZeros.1, signedZeros.2] default =
        .done (.ok .truth) default ∧ ¬signedZeros.1.HoldsInfinite) ∧
      callNamed (fun _ _ => .pure .nil) 0 "EQUAL" [signedZeros.1, signedZeros.2, .number 0.5]
        default = .done (.ok .truth) default := by
  have hfuzz : ∀ x ∈ some 0.5, 0.0 ≤ x := by
    rintro x ⟨⟩
    decide +kernel
  have heq : callNamed (fun _ _ => .pure .nil) 0 "EQ" [signedZeros.1, signedZeros.2] default =
      .done (.ok .truth) default := by
    rw [eq_call, show (signedZeros.1 == signedZeros.2) = true by decide +kernel]
    rfl
  exact ⟨⟨hfuzz, heq, not_holdsInfinite_signedZeros⟩,
    (equal_of_eq _ 0 default hfuzz heq).1 not_holdsInfinite_signedZeros⟩

/-- An infinite number is equal to itself, but the difference to itself is not zero. -/
theorem not_equal_of_eq :
    ¬∀ (a b : Value) (fuzz : Option Float), (∀ x ∈ fuzz, 0.0 ≤ x) →
      callNamed (fun _ _ => .pure .nil) 0 "EQ" [a, b] default = .done (.ok .truth) default →
      callNamed (fun _ _ => .pure .nil) 0 "EQUAL" (a :: b :: fuzz.toList.map .number) default =
        .done (.ok .truth) default := by
  intro h
  have heq : callNamed (fun _ _ => .pure .nil) 0 "EQ"
      [.number Numeric.infinity, .number Numeric.infinity] default =
        .done (.ok .truth) default := by
    rw [eq_call, show (Value.number Numeric.infinity == .number Numeric.infinity) = true from rfl]
    rfl
  have hequal := h _ _ none (by simp) heq
  rw [equal_call, not_equalWithin_of_beq rfl (.number rfl)] at hequal
  cases hequal

end Builtin.Comparison

end DraftLisp

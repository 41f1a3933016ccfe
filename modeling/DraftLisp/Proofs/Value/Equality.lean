import Mathlib.Logic.Relation
import DraftLisp.Proofs.Builtin.Equality
import DraftLisp.Proofs.Form.Converted

namespace DraftLisp

open Relation (ReflTransGen)

namespace Numeric

variable {x y z : Float}

theorem beq_symm (h : (x == y) = true) : (y == x) = true := by
  obtain ⟨sign, hx, hy⟩ | ⟨sign, other, hx, hy⟩ | ⟨_, _, _, _, _, rfl⟩ := beq_cases h
  · rw [beq_eq_compare, hx, hy]
    cases sign <;> rfl
  · rw [beq_eq_compare, hx, hy]
    rfl
  · exact h

theorem beq_trans (hxy : (x == y) = true) (hyz : (y == z) = true) : (x == z) = true := by
  obtain ⟨sign, hx, hy⟩ | ⟨sign, other, hx, hy⟩ | ⟨_, _, _, _, _, rfl⟩ := beq_cases hxy
  · rw [beq_eq_compare, hy] at hyz
    rw [beq_eq_compare, hx]
    exact hyz
  · obtain ⟨_, hy', -⟩ | ⟨_, _, -, hz⟩ | ⟨_, _, _, _, hy', -⟩ := beq_cases hyz
    · cases hy.symm.trans hy'
    · rw [beq_eq_compare, hx, hz]
      rfl
    · cases hy.symm.trans hy'
  · exact hyz

theorem beq_self_iff : (x == x) = true ↔ x.isNaN = false :=
  ⟨fun h => (not_isNaN_of_beq h).1, beq_self_of_isNaN⟩

end Numeric

namespace Value

/-- A value of the kind of numbers that is none. -/
def NotANumber (value : Value) : Prop := ∃ x, value = .number x ∧ x.isNaN = true

/-- Values that are equal to nothing but themselves. -/
def Atomic : Value → Prop
  | .truth | .string _ | .symbol _ | .entity _ | .selection _ => True
  | _ => False

/-- In one place, at any depth of lists, the second value has the empty list where the first one has
`nil`, or the other way round. -/
inductive Exchanged : Value → Value → Prop
  | emptied : Exchanged .nil (.list [])
  | nilled : Exchanged (.list []) .nil
  | inside {item other : Value} (before behind : List Value) : Exchanged item other →
      Exchanged (.list (before ++ item :: behind)) (.list (before ++ other :: behind))

variable {a b c : Value} {xs ys zs : List Value}

section Elements

theorem forall₂_beq_symm (h : List.Forall₂ (fun x y => (x == y) = true) xs ys)
    (hsymm : ∀ x ∈ xs, ∀ y, (x == y) = true → (y == x) = true) :
    List.Forall₂ (fun y x => (y == x) = true) ys xs :=
  (Simulation.forall₂_of_mem h hsymm).flip

theorem forall₂_beq_trans (hxy : List.Forall₂ (fun x y => (x == y) = true) xs ys)
    (hyz : List.Forall₂ (fun y z => (y == z) = true) ys zs)
    (htrans : ∀ x ∈ xs, ∀ y z, (x == y) = true → (y == z) = true → (x == z) = true) :
    List.Forall₂ (fun x z => (x == z) = true) xs zs := by
  induction hxy generalizing zs with
  | nil =>
      cases hyz
      exact .nil
  | cons hfirst _ ih =>
      cases hyz with
      | cons hsecond hrest =>
          rw [List.forall_mem_cons] at htrans
          exact .cons (htrans.1 _ _ hfirst hsecond) (ih hrest htrans.2)

/-- An element may be replaced by one that is equal to the same values. -/
theorem forall₂_beq_inside {item other : Value} (h : ∀ y, (item == y) = (other == y))
    (before behind : List Value) :
    List.Forall₂ (fun x y => (x == y) = true) (before ++ item :: behind) ys ↔
      List.Forall₂ (fun x y => (x == y) = true) (before ++ other :: behind) ys := by
  induction before generalizing ys with
  | nil => cases ys <;> simp [h]
  | cons first rest ih => cases ys <;> simp [ih]

end Elements

/-- Two lists are equal if their elements are; `nil` is the list without elements. -/
theorem beq_iff_of_items? (h : a.items? = some xs) :
    (a == b) = true ↔
      ∃ ys, b.items? = some ys ∧ List.Forall₂ (fun x y => (x == y) = true) xs ys := by
  cases a with
  | nil =>
      cases h
      cases b with
      | nil => exact iff_of_true rfl ⟨[], rfl, .nil⟩
      | list ys =>
          change ys.isEmpty = true ↔ _
          simp [items?]
      | _ => exact iff_of_false Bool.false_ne_true (by simp [items?])
  | list items =>
      cases h
      cases b with
      | nil =>
          change xs.isEmpty = true ↔ _
          simp [items?]
      | list ys =>
          rw [list_beq_list_iff]
          simp [items?]
      | _ => exact iff_of_false Bool.false_ne_true (by simp [items?])
  | _ => cases h

/-- An atomic value is equal to nothing but itself. -/
theorem eq_of_atomic (h : (a == b) = true) (ha : a.Atomic) : b = a := by
  cases a with
  | truth =>
      cases b with
      | truth => rfl
      | _ => cases h
  | string text =>
      cases b with
      | string other =>
          obtain rfl : text = other := eq_of_beq h
          rfl
      | _ => cases h
  | symbol name =>
      cases b with
      | symbol other =>
          obtain rfl : name = other := eq_of_beq h
          rfl
      | _ => cases h
  | entity id =>
      cases b with
      | entity other =>
          obtain rfl : id = other := eq_of_beq h
          rfl
      | _ => cases h
  | selection ids =>
      cases b with
      | selection others =>
          obtain rfl : ids = others := eq_of_beq h
          rfl
      | _ => cases h
  | _ => cases ha

theorem beq_symm (h : (a == b) = true) : (b == a) = true := by
  induction a using Value.induction generalizing b with
  | nil =>
      obtain ⟨ys, hb, hitems⟩ := (beq_iff_of_items? rfl).mp h
      exact (beq_iff_of_items? hb).mpr ⟨[], rfl, forall₂_beq_symm hitems (by simp)⟩
  | list xs ih =>
      obtain ⟨ys, hb, hitems⟩ := (beq_iff_of_items? rfl).mp h
      exact (beq_iff_of_items? hb).mpr
        ⟨xs, rfl, forall₂_beq_symm hitems fun x hx y => ih x hx⟩
  | number x =>
      cases b with
      | number y => exact Numeric.beq_symm h
      | _ => cases h
  | closure identity =>
      cases b with
      | closure other =>
          obtain rfl : identity = other := beq_iff_eq.mp h
          exact h
      | _ => cases h
  | _ =>
      obtain rfl := eq_of_atomic h trivial
      exact h

theorem beq_trans (hab : (a == b) = true) (hbc : (b == c) = true) : (a == c) = true := by
  induction a using Value.induction generalizing b c with
  | nil =>
      obtain ⟨ys, hb, hxy⟩ := (beq_iff_of_items? rfl).mp hab
      obtain ⟨zs, hc, hyz⟩ := (beq_iff_of_items? hb).mp hbc
      exact (beq_iff_of_items? rfl).mpr ⟨zs, hc, forall₂_beq_trans hxy hyz (by simp)⟩
  | list xs ih =>
      obtain ⟨ys, hb, hxy⟩ := (beq_iff_of_items? rfl).mp hab
      obtain ⟨zs, hc, hyz⟩ := (beq_iff_of_items? hb).mp hbc
      exact (beq_iff_of_items? rfl).mpr
        ⟨zs, hc, forall₂_beq_trans hxy hyz fun x hx y z => ih x hx⟩
  | number x =>
      cases b with
      | number y =>
          cases c with
          | number z => exact Numeric.beq_trans hab hbc
          | _ => cases hbc
      | _ => cases hab
  | closure identity =>
      cases b with
      | closure other =>
          obtain rfl : identity = other := beq_iff_eq.mp hab
          cases c with
          | closure third => exact hbc
          | _ => cases hbc
      | _ => cases hab
  | _ =>
      obtain rfl := eq_of_atomic hab trivial
      exact hbc

theorem beq_self_of_ne (hlist : ∀ items, a ≠ .list items) (hnumber : ∀ x, a ≠ .number x) :
    (a == a) = true := by
  cases a with
  | nil | truth => rfl
  | number x => exact (hnumber x rfl).elim
  | string text => exact beq_self_eq_true text
  | symbol name => exact beq_self_eq_true name
  | list items => exact (hlist items rfl).elim
  | closure identity => exact beq_self_eq_true identity
  | entity id => exact beq_self_eq_true id
  | selection ids => exact beq_self_eq_true ids

/-- A value is equal to itself unless something in it is no number. -/
theorem beq_self_iff : (a == a) = true ↔ ∀ part, Part part a → ¬part.NotANumber := by
  induction a using Value.induction with
  | list items ih =>
      rw [forall_part_list, list_beq_list_iff, List.forall₂_same]
      simp only [NotANumber, reduceCtorEq, false_and, exists_false, not_false_eq_true, true_and]
      exact forall₂_congr ih
  | number x =>
      rw [forall_part_atom (by simp)]
      exact Numeric.beq_self_iff.trans (by simp [NotANumber])
  | _ =>
      rw [forall_part_atom (by simp)]
      exact iff_of_true (beq_self_of_ne (by simp) (by simp)) (by simp [NotANumber])

theorem beq_congr_left (h : (a == b) = true) (c : Value) : (a == c) = (b == c) :=
  Bool.eq_iff_iff.mpr ⟨beq_trans (beq_symm h), beq_trans h⟩

theorem beq_comm (a b : Value) : (a == b) = (b == a) :=
  Bool.eq_iff_iff.mpr ⟨beq_symm, beq_symm⟩

theorem isNil_eq_beq_nil (a : Value) : a.isNil = (a == .nil) := by
  cases a <;> rfl

theorem isTruthy_eq_of_beq (h : (a == b) = true) : a.isTruthy = b.isTruthy := by
  rw [isTruthy, isTruthy, isNil_eq_beq_nil, isNil_eq_beq_nil, beq_congr_left h]

theorem Exchanged.beq_eq (h : Exchanged a b) (c : Value) : (a == c) = (b == c) := by
  induction h generalizing c with
  | emptied | nilled =>
      exact Bool.eq_iff_iff.mpr ((beq_iff_of_items? rfl).trans (beq_iff_of_items? rfl).symm)
  | inside before behind _ ih =>
      rw [Bool.eq_iff_iff, beq_iff_of_items? rfl, beq_iff_of_items? rfl]
      simp only [forall₂_beq_inside ih before behind]

/-- However often `nil` and the empty list are exchanged, a comparison comes out the same. -/
theorem beq_eq_of_exchanged (h : ReflTransGen Exchanged a b) (c : Value) : (a == c) = (b == c) := by
  induction h with
  | refl => rfl
  | tail _ hlast ih => rw [ih, hlast.beq_eq]

section Searches

open DraftLisp.Builtin.Lists

variable (h : ∀ x, (x == a) = (x == b))

include h

theorem member_congr (items : List Value) : member a items = member b items := by
  induction items with
  | nil => rfl
  | cons x rest ih => rw [member, member, h, ih]

theorem assoc_congr (entries : List Value) : assoc a entries = assoc b entries := by
  simp only [assoc, h]

theorem positionOf_congr (items : List Value) : positionOf a items = positionOf b items := by
  simp only [positionOf, h]

theorem without_congr (items : List Value) : without a items = without b items := by
  simp only [without, bne, h]

end Searches

open DraftLisp.Builtin.Lists in
/-- What searches rely on when they compare values. -/
structure EqualityLaws : Prop where
  symm : ∀ a b : Value, (a == b) = true → (b == a) = true
  trans : ∀ a b c : Value, (a == b) = true → (b == c) = true → (a == c) = true
  self_iff : ∀ a : Value, (a == a) = true ↔ ∀ part, Part part a → ¬part.NotANumber
  truthy : ∀ a b : Value, (a == b) = true → a.isTruthy = b.isTruthy
  exchange : ∀ a a' b b' : Value, ReflTransGen Exchanged a a' → ReflTransGen Exchanged b b' →
    (a == b) = (a' == b')
  /-- A search finds the same when an item is sought that is equal or has `nil` and the empty list
  exchanged. -/
  searches : ∀ a b : Value, (a == b) = true ∨ ReflTransGen Exchanged a b → ∀ items,
    member a items = member b items ∧ assoc a items = assoc b items ∧
      positionOf a items = positionOf b items ∧ without a items = without b items

theorem equalityLaws : EqualityLaws where
  symm _ _ := beq_symm
  trans _ _ _ := beq_trans
  self_iff _ := beq_self_iff
  truthy _ _ := isTruthy_eq_of_beq
  exchange a a' b b' ha hb := by
    rw [beq_eq_of_exchanged ha, beq_comm, beq_eq_of_exchanged hb, beq_comm]
  searches a b h items := by
    have hsame : ∀ x, (x == a) = (x == b) := by
      intro x
      rw [beq_comm x a, beq_comm x b]
      exact h.elim (beq_congr_left · x) (beq_eq_of_exchanged · x)
    exact ⟨member_congr hsame items, assoc_congr hsame items, positionOf_congr hsame items,
      without_congr hsame items⟩

end Value

end DraftLisp

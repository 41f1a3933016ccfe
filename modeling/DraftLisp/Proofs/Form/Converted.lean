import Mathlib.Logic.Relation
import DraftLisp.Proofs.Form.Nilled

namespace DraftLisp

open Relation (ReflTransGen)

/-- What holds of all parts holds of the whole and of all parts of its elements. -/
theorem forall_part_iff {α : Type} {element : α → α → Prop} {P : α → Prop} {whole : α} :
    (∀ part, ReflTransGen element part whole → P part) ↔
      P whole ∧ ∀ item, element item whole → ∀ part, ReflTransGen element part item → P part := by
  constructor
  · intro h
    exact ⟨h whole .refl, fun item hitem part hpart => h part (hpart.tail hitem)⟩
  · rintro ⟨hwhole, hitems⟩ part hpart
    rcases hpart.cases_tail with rfl | ⟨item, hpart, hitem⟩
    · exact hwhole
    · exact hitems item hitem part hpart

namespace Value

def Element (item whole : Value) : Prop := ∃ items, whole = .list items ∧ item ∈ items

/-- A value stands in another one, at any depth of lists. -/
abbrev Part (part whole : Value) : Prop := ReflTransGen Element part whole

/-- Functions, entities and selections stand for no form. -/
def Formless : Value → Prop
  | .closure .. | .entity _ | .selection _ => True
  | _ => False

/-- Values in the place of which data has another one. -/
def Replaced (value : Value) : Prop :=
  value = .truth ∨ value = .list [] ∨ value = .symbol "NIL"

mutual

/-- The value with the symbol `T` for truth, and `nil` for every empty list and symbol `NIL`. -/
def normalized : Value → Value
  | .truth => .symbol "T"
  | .symbol name => if name = "NIL" then .nil else .symbol name
  | .list [] => .nil
  | .list (first :: rest) => .list (normalized first :: normalizedAll rest)
  | value => value

def normalizedAll : List Value → List Value
  | [] => []
  | value :: rest => normalized value :: normalizedAll rest

end

variable {P : Value → Prop} {value : Value} {items : List Value}

theorem forall_part_list :
    (∀ part, Part part (.list items) → P part) ↔
      P (.list items) ∧ ∀ item ∈ items, ∀ part, Part part item → P part := by
  rw [forall_part_iff]
  simp [Element]

theorem forall_part_atom (h : ∀ items, value ≠ .list items) :
    (∀ part, Part part value → P part) ↔ P value := by
  rw [forall_part_iff]
  simp [Element, h]

theorem normalizedAll_eq_map (items : List Value) : normalizedAll items = items.map normalized := by
  induction items with
  | nil => rfl
  | cons item rest ih => rw [normalizedAll, List.map_cons, ih]

theorem normalized_list (items : List Value) :
    (Value.list items).normalized = ofList (items.map normalized) := by
  cases items with
  | nil => rfl
  | cons first rest =>
      rw [normalized, normalizedAll_eq_map]
      rfl

theorem ofList_eq_list_iff {others : List Value} :
    ofList items = .list others ↔ items = others ∧ others ≠ [] := by
  cases items with
  | nil => cases others <;> simp [ofList]
  | cons item rest =>
      simp only [ofList, list.injEq]
      constructor
      · rintro rfl
        exact ⟨rfl, List.cons_ne_nil _ _⟩
      · exact And.left

theorem map_ofForm_of_forms? {forms : List Form} (hforms : forms? items = some forms)
    (h : ∀ item ∈ items, ∀ form, item.form? = some form → ofForm form = item.normalized) :
    forms.map ofForm = items.map normalized := by
  induction items generalizing forms with
  | nil =>
      cases hforms
      rfl
  | cons item rest ih =>
      rw [forms?] at hforms
      split at hforms
      · rename_i form others hform hothers
        cases hforms
        rw [List.forall_mem_cons] at h
        rw [List.map_cons, List.map_cons, h.1 form hform, ih hothers h.2]
      · cases hforms

/-- The form of a value, taken as data again, is the value normalized at every depth. -/
theorem ofForm_of_form? {form : Form} (h : value.form? = some form) :
    ofForm form = value.normalized := by
  induction value using Value.induction generalizing form with
  | symbol name =>
      obtain rfl : Form.symbol name = form := Option.some.inj h
      rfl
  | list items ih =>
      obtain ⟨forms, hforms, rfl⟩ := Option.map_eq_some_iff.mp h
      have hitems := map_ofForm_of_forms? hforms fun item hitem form hform => ih item hitem hform
      rw [ofForm, ofForms_eq_map, hitems, normalized_list]
  | closure | entity | selection => cases h
  | _ =>
      cases h
      rfl

theorem isSome_forms?_iff : (forms? items).isSome ↔ ∀ item ∈ items, item.form?.isSome := by
  induction items with
  | nil => simp [forms?]
  | cons item rest ih =>
      rw [List.forall_mem_cons, ← ih, forms?]
      cases item.form? with
      | none => simp
      | some form => cases forms? rest <;> simp

/-- A value has a form unless something in it has none. -/
theorem isSome_form?_iff : value.form?.isSome ↔ ∀ part, Part part value → ¬part.Formless := by
  induction value using Value.induction with
  | list items ih =>
      have hitems : (Value.list items).form?.isSome ↔ ∀ item ∈ items, item.form?.isSome := by
        rw [form?, Option.isSome_map, isSome_forms?_iff]
      rw [forall_part_list, hitems]
      constructor
      · intro h
        exact ⟨id, fun item hitem => (ih item hitem).mp (h item hitem)⟩
      · rintro ⟨-, h⟩ item hitem
        exact (ih item hitem).mpr (h item hitem)
  | _ =>
      rw [forall_part_atom (by simp)]
      simp [form?, Formless]

/-- A value stays as it is if nothing in it is replaced. -/
theorem normalized_eq_self_iff :
    value.normalized = value ↔ ∀ part, Part part value → ¬part.Replaced := by
  induction value using Value.induction with
  | list items ih =>
      have hself : ¬(Value.list items).Replaced ↔ items ≠ [] := by simp [Replaced]
      have hitems : items.map normalized = items ↔ ∀ item ∈ items, item.normalized = item := by
        simpa using List.map_inj_left (l := items) (f := normalized) (g := id)
      rw [forall_part_list, normalized_list, ofList_eq_list_iff, hself, hitems, and_comm]
      exact and_congr_right fun _ => forall₂_congr ih
  | symbol name =>
      rw [forall_part_atom (by simp)]
      by_cases hname : name = "NIL" <;> simp [normalized, Replaced, hname]
  | _ =>
      rw [forall_part_atom (by simp)]
      simp [normalized, Replaced]

end Value

namespace Form

def Element (item whole : Form) : Prop := ∃ items, whole = .list items ∧ item ∈ items

/-- A form stands in another one, at any depth of lists. -/
abbrev Part (part whole : Form) : Prop := ReflTransGen Element part whole

/-- A form stays as it is if no empty list stands in it. -/
theorem nilled_eq_self_iff {form : Form} :
    form.nilled = form ↔ ∀ part, Part part form → part ≠ .list [] := by
  induction form using Form.induction with
  | list items ih =>
      have hitems : items.map nilled = items ↔ ∀ item ∈ items, item.nilled = item := by
        simpa using List.map_inj_left (l := items) (f := nilled) (g := id)
      have helements : (∀ item, Element item (.list items) → ∀ part, Part part item →
          part ≠ .list []) ↔ ∀ item ∈ items, item.nilled = item := by
        simpa [Element] using (forall₂_congr ih).symm
      rw [forall_part_iff, helements]
      cases items with
      | nil => simp [nilled]
      | cons first rest =>
          rw [nilled_list (List.cons_ne_nil _ _), list.injEq, hitems]
          simp
  | _ =>
      rw [forall_part_iff]
      simp [nilled, Element]

end Form

namespace Value

/-- How data and forms are turned into each other. -/
structure Convertible : Prop where
  /-- A value in which nothing stands for no form has one, and comes back from it normalized. -/
  data : ∀ value : Value, (∀ part, Part part value → ¬part.Formless) →
    ∃ form, value.form? = some form ∧ ofForm form = value.normalized
  /-- No other value has a form. -/
  formless : ∀ value : Value, (∃ part, Part part value ∧ part.Formless) → value.form? = none
  form : ∀ form : Form, (ofForm form).form? = some form.nilled
  data_kept : ∀ value : Value, value.form?.map ofForm = some value ↔
    ∀ part, Part part value → ¬part.Formless ∧ ¬part.Replaced
  form_kept : ∀ form : Form, (ofForm form).form? = some form ↔
    ∀ part, Form.Part part form → part ≠ .list []

theorem convertible : Convertible where
  data := by
    intro value h
    obtain ⟨form, hform⟩ := Option.isSome_iff_exists.mp (isSome_form?_iff.mpr h)
    exact ⟨form, hform, ofForm_of_form? hform⟩
  formless := by
    rintro value ⟨part, hpart, hformless⟩
    rw [← Option.not_isSome_iff_eq_none, isSome_form?_iff]
    exact fun h => h part hpart hformless
  form := form?_ofForm
  data_kept := by
    intro value
    rw [Option.map_eq_some_iff]
    constructor
    · rintro ⟨form, hform, hback⟩
      have hnormal := (ofForm_of_form? hform).symm.trans hback
      have hdata := isSome_form?_iff.mp (Option.isSome_of_eq_some hform)
      exact fun part hpart => ⟨hdata part hpart, normalized_eq_self_iff.mp hnormal part hpart⟩
    · intro h
      obtain ⟨form, hform⟩ :=
        Option.isSome_iff_exists.mp (isSome_form?_iff.mpr fun part hpart => (h part hpart).1)
      have hnormal := normalized_eq_self_iff.mpr fun part hpart => (h part hpart).2
      exact ⟨form, hform, (ofForm_of_form? hform).trans hnormal⟩
  form_kept := by
    intro form
    rw [form?_ofForm, Option.some.injEq, Form.nilled_eq_self_iff]

end Value

end DraftLisp

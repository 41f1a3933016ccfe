import DraftLisp.Proofs.Entity.Slots

/-!
All x and all y of a list are collected before they are put together, so that a missing y is taken
from a later vertex if one has a y.
-/

namespace DraftLisp.Groups

/-- A vertex as a list gives it: an x, and maybe a y and a height, which is not read. -/
structure VertexGroup where
  x : Float
  y : Option Float
  height : Option Value

namespace VertexGroup

def fields (group : VertexGroup) : List (Int × Value) :=
  (10, .number group.x) ::
    (group.y.toList.map fun y => (20, .number y)) ++ group.height.toList.map fun z => (30, z)

/-- The vertex that the group stands for: zero if the group has no y. -/
def point (group : VertexGroup) : Point := ⟨group.x, group.y.getD 0.0⟩

/-- The vertices that groups become: each takes the next y that any group has. -/
def collected (groups : List VertexGroup) : List Point :=
  Draft.vertices (groups.map x) (groups.filterMap y)

variable (groups : List VertexGroup)

theorem map_x_collected : (collected groups).map Point.x = groups.map x := by
  rw [collected, Draft.map_x_vertices]

theorem collected_append {full : List VertexGroup} (h : ∀ group ∈ full, group.y.isSome)
    (rest : List VertexGroup) : collected (full ++ rest) = full.map point ++ collected rest := by
  induction full with
  | nil => rfl
  | cons group full ih =>
      rw [List.forall_mem_cons] at h
      obtain ⟨x, _ | y, height⟩ := group
      · simp at h
      · have ih : collected (full ++ rest) = full.map point ++ collected rest := ih h.2
        change ⟨x, y⟩ :: collected (full ++ rest) = ⟨x, y⟩ :: (full.map point ++ collected rest)
        rw [ih]

theorem collected_of_none (h : ∀ group ∈ groups, group.y = none) :
    collected groups = groups.map point := by
  induction groups with
  | nil => rfl
  | cons group rest ih =>
      rw [List.forall_mem_cons] at h
      obtain ⟨x, y, height⟩ := group
      obtain rfl : y = none := h.1
      have hrest : rest.filterMap VertexGroup.y = [] := List.filterMap_eq_nil_iff.mpr h.2
      have ih := ih h.2
      rw [collected, hrest] at ih
      rw [collected, List.filterMap_cons_none rfl, hrest, List.map_cons, List.map_cons,
        Draft.vertices, ih]
      rfl

theorem given_x : given 10 (groups.flatMap fields) = (groups.map x).map .number := by
  induction groups with
  | nil => rfl
  | cons group rest ih =>
      obtain ⟨x, y, height⟩ := group
      rw [List.flatMap_cons, given_append, ih]
      cases y <;> cases height <;> rfl

theorem given_y : given 20 (groups.flatMap fields) = (groups.filterMap y).map .number := by
  induction groups with
  | nil => rfl
  | cons group rest ih =>
      obtain ⟨x, y, height⟩ := group
      rw [List.flatMap_cons, given_append, ih]
      cases y <;> cases height <;> rfl

theorem admits_fields :
    ∀ entry ∈ groups.flatMap fields, (Shape.polyline [] false).Admits entry := by
  intro entry hentry
  obtain ⟨⟨x, y, height⟩, -, hentry⟩ := List.mem_flatMap.mp hentry
  cases y <;> cases height <;> simp [fields] at hentry <;>
    rcases hentry with rfl | rfl | rfl <;>
    simp [Shape.admits_iff, Shape.numberCodes, Shape.textCodes]

end VertexGroup

/-- Entries beside the groups: no coordinates, and nothing that a polyline refuses. -/
def Beside (entries : List (Int × Value)) : Prop :=
  ∀ entry ∈ entries, entry.1 ≠ 10 ∧ entry.1 ≠ 20 ∧ (Shape.polyline [] false).Admits entry

theorem Beside.given_eq_nil {entries : List (Int × Value)} (h : Beside entries) :
    given 10 entries = [] ∧ given 20 entries = [] := by
  have hnone (code : Int) (hcode : ∀ entry ∈ entries, entry.1 ≠ code) :
      given code entries = [] := by
    simpa [given] using hcode
  exact ⟨hnone 10 fun entry hentry => (h entry hentry).1,
    hnone 20 fun entry hentry => (h entry hentry).2.1⟩

section Grouped

variable {groups : List VertexGroup} {before after : List (Int × Value)} (hbefore : Beside before)
  (hafter : Beside after) {list : Value}
  (hlist : pairs list = .ok (before ++ groups.flatMap VertexGroup.fields ++ after))

include hbefore hafter hlist

theorem overwriting_grouped {data : EntityData} {old : List Point} {closed : Bool}
    (hshape : data.shape = .polyline old closed) :
    ∃ changed flag, overwriting list data = (changed, none) ∧
      changed.shape =
        .polyline (if groups = [] then old else VertexGroup.collected groups) flag := by
  have hsame : data.shape.typeName = (Shape.polyline [] false).typeName := by rw [hshape]; rfl
  have hadmits : ∀ entry ∈ before ++ groups.flatMap VertexGroup.fields ++ after,
      data.shape.Admits entry := by
    simp only [List.forall_mem_append]
    exact ⟨⟨fun entry hentry => (hbefore entry hentry).2.2.of_typeName hsame,
      fun entry hentry => (VertexGroup.admits_fields groups entry hentry).of_typeName hsame⟩,
      fun entry hentry => (hafter entry hentry).2.2.of_typeName hsame⟩
  -- Only the groups give coordinates.
  have hx : given 10 (before ++ groups.flatMap VertexGroup.fields ++ after) =
      (groups.map VertexGroup.x).map .number := by
    simp only [given_append, hbefore.given_eq_nil.1, hafter.given_eq_nil.1, VertexGroup.given_x,
      List.nil_append, List.append_nil]
  have hy : given 20 (before ++ groups.flatMap VertexGroup.fields ++ after) =
      (groups.filterMap VertexGroup.y).map .number := by
    simp only [given_append, hbefore.given_eq_nil.2, hafter.given_eq_nil.2, VertexGroup.given_y,
      List.nil_append, List.append_nil]
  obtain ⟨⟨layer, shape⟩, hchanged, hover⟩ := overwriting_of_admits hlist hadmits
  have hvertices : shape.vertices =
      if groups = [] then old else VertexGroup.collected groups := by
    have hvertices := hover.vertices
    rw [hshape, coordinates_of_given hx, coordinates_of_given hy] at hvertices
    simp only [List.map_eq_nil_iff] at hvertices
    exact hvertices
  have htype := hover.typeName
  rw [hshape] at htype
  cases shape <;> simp [Shape.typeName] at htype
  exact ⟨_, _, hchanged, congrArg (Shape.polyline · _) hvertices⟩

theorem create_grouped {name : String} (layer : String)
    (hname : (before ++ groups.flatMap VertexGroup.fields ++ after).lookup 0 = some (.string name))
    (htype : Text.upper name = "LWPOLYLINE") :
    ∃ data flag, create list layer = .ok data ∧
      data.shape = .polyline (VertexGroup.collected groups) flag := by
  have hdefault : (EntityData.mk layer (.polyline [] false)).shape = .polyline [] false := rfl
  obtain ⟨data, flag, hover, hshape⟩ := overwriting_grouped hbefore hafter hlist hdefault
  refine ⟨data, flag, ?_, ?_⟩
  · simp only [create, hlist, hname, text, bind, Except.bind, htype, defaultShape?, overwrite,
      hover]
  · rw [hshape]
    cases groups <;> rfl

end Grouped

/-- A point that has no y of its own before one that has. -/
def gap : List VertexGroup := [⟨1, none, none⟩, ⟨2, some 5, none⟩]

/-- A vertex without a y takes the y of the vertex behind it. -/
theorem not_own_y :
    ¬∀ (groups : List VertexGroup) (list : Value) (layer : String),
      pairs list = .ok ((0, .string "LWPOLYLINE") :: groups.flatMap VertexGroup.fields) →
        ∃ data flag, create list layer = .ok data ∧
          data.shape = .polyline (groups.map VertexGroup.point) flag := by
  intro h
  let entries : List (Int × Value) :=
    (0, .string "LWPOLYLINE") :: gap.flatMap VertexGroup.fields
  have hused : ∀ field ∈ entries, field.1 ∈ usedCodes := by
    simp [entries, gap, VertexGroup.fields, usedCodes]
  have hlist : pairs (.list (entries.map entryOf)) = .ok entries :=
    congrArg Except.ok (filterMap_pair?_entryOf hused)
  have hbefore : Beside [(0, .string "LWPOLYLINE")] := by
    simp [Beside, Shape.admits_iff, Shape.numberCodes, Shape.textCodes]
  have hafter : Beside [] := by simp [Beside]
  have hlist' : pairs (.list (entries.map entryOf)) =
      .ok ([(0, .string "LWPOLYLINE")] ++ gap.flatMap VertexGroup.fields ++ []) := by
    rw [hlist, List.append_nil]
    rfl
  obtain ⟨data, flag, hcreate, hshape⟩ :=
    create_grouped hbefore hafter hlist' "0" rfl (by decide +kernel)
  obtain ⟨data', flag', hcreate', hshape'⟩ := h gap _ "0" hlist
  obtain rfl : data = data' := Except.ok.inj (hcreate.symm.trans hcreate')
  rw [hshape] at hshape'
  have hsame : VertexGroup.collected gap = gap.map VertexGroup.point := by cases hshape'
  exact absurd hsame (by decide +kernel)

/-- A list with groups of an x and maybe a y, among fields that are no coordinates, gives a polyline
one vertex for each group, with its x. The y of all groups are handed out in order: each group has
its own as long as none before it lacks a y, and zero if none behind it has one either. -/
theorem vertices_by_groups (groups : List VertexGroup) (before after : List (Int × Value))
    (list : Value) (hbefore : Beside before) (hafter : Beside after)
    (hlist : pairs list = .ok (before ++ groups.flatMap VertexGroup.fields ++ after)) :
    (∀ (data : EntityData) old closed, data.shape = .polyline old closed → groups ≠ [] →
        ∃ changed flag, overwriting list data = (changed, none) ∧
          changed.shape = .polyline (VertexGroup.collected groups) flag) ∧
      (∀ layer name,
        (before ++ groups.flatMap VertexGroup.fields ++ after).lookup 0 = some (.string name) →
        Text.upper name = "LWPOLYLINE" →
        ∃ data flag, create list layer = .ok data ∧
          data.shape = .polyline (VertexGroup.collected groups) flag) ∧
      (VertexGroup.collected groups).map Point.x = groups.map VertexGroup.x ∧
      ∀ full rest, groups = full ++ rest → (∀ group ∈ full, group.y.isSome) →
        VertexGroup.collected groups =
            full.map VertexGroup.point ++ VertexGroup.collected rest ∧
          ((∀ group ∈ rest, group.y = none) →
            VertexGroup.collected groups = groups.map VertexGroup.point) := by
  refine ⟨?_, fun layer name => create_grouped hbefore hafter hlist layer,
    VertexGroup.map_x_collected groups, ?_⟩
  · intro data old closed hshape hgroups
    obtain ⟨changed, flag, hchanged, hnew⟩ := overwriting_grouped hbefore hafter hlist hshape
    rw [if_neg hgroups] at hnew
    exact ⟨changed, flag, hchanged, hnew⟩
  · rintro full rest rfl hfull
    refine ⟨VertexGroup.collected_append hfull rest, fun hrest => ?_⟩
    rw [VertexGroup.collected_append hfull, VertexGroup.collected_of_none rest hrest,
      List.map_append]

/-- Two vertices, of which the second lies on the axis, in the middle of other fields. -/
def tail : List VertexGroup := [⟨1, some 5, some (.number 0)⟩, ⟨2, none, none⟩]

def tailBefore : List (Int × Value) := [(0, .string "lwPolyline"), (70, .number 1)]

def tailAfter : List (Int × Value) := [(8, .string "A")]

def tailList : Value :=
  .list ((tailBefore ++ tail.flatMap VertexGroup.fields ++ tailAfter).map entryOf)

theorem vertices_by_groups_tail :
    Beside tailBefore ∧ Beside tailAfter ∧
      pairs tailList = .ok (tailBefore ++ tail.flatMap VertexGroup.fields ++ tailAfter) ∧
      (∃ changed flag, overwriting tailList strip = (changed, none) ∧
        changed.shape = .polyline (VertexGroup.collected tail) flag) ∧
      (∃ data flag, create tailList "0" = .ok data ∧
        data.shape = .polyline (VertexGroup.collected tail) flag) ∧
      VertexGroup.collected tail = tail.map VertexGroup.point := by
  have hbefore : Beside tailBefore := by
    simp [Beside, tailBefore, Shape.admits_iff, Shape.numberCodes, Shape.textCodes]
  have hafter : Beside tailAfter := by
    simp [Beside, tailAfter, Shape.admits_iff, Shape.numberCodes, Shape.textCodes]
  have hused : ∀ field ∈ tailBefore ++ tail.flatMap VertexGroup.fields ++ tailAfter,
      field.1 ∈ usedCodes := by
    simp [tailBefore, tail, tailAfter, VertexGroup.fields, usedCodes]
  have hlist : pairs tailList = _ := congrArg Except.ok (filterMap_pair?_entryOf hused)
  obtain ⟨hover, hcreate, -, hown⟩ := vertices_by_groups tail _ _ _ hbefore hafter hlist
  exact ⟨hbefore, hafter, hlist, hover strip _ _ rfl (by simp [tail]),
    hcreate "0" "lwPolyline" rfl (by decide +kernel),
    (hown [⟨1, some 5, some (.number 0)⟩] [⟨2, none, none⟩] rfl (by simp)).2 (by simp)⟩

end DraftLisp.Groups

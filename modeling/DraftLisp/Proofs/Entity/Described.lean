import DraftLisp.Entity.Groups

namespace DraftLisp

/-- The data with the vertices of older data if it is a polyline that has none. -/
def EntityData.over (saved old : EntityData) : EntityData :=
  match saved.shape, old.shape with
  | .polyline [] closed, .polyline vertices _ => { saved with shape := .polyline vertices closed }
  | _, _ => saved

namespace Groups

/-- The codes that descriptions have. -/
def usedCodes : List Int := [-1, 0, 1, 8, 10, 11, 20, 21, 30, 31, 40, 50, 51, 70]

/-- A code that is written as a number is read as the same code. -/
theorem toInt32_usedCodes : ∀ code ∈ usedCodes, Numeric.isWhole (Numeric.ofInt code) = true ∧
    Numeric.toInt32 (Numeric.ofInt code) = code := by
  decide +kernel

theorem pair?_entry {code : Int} (h : code ∈ usedCodes) (value : Value) :
    pair? (entry code value) = some (code, value) := by
  obtain ⟨hwhole, hcode⟩ := toInt32_usedCodes code h
  rw [entry, pair?, if_pos hwhole, hcode]

section Fields

def pointFields (code : Int) (p : Point) : List (Int × Value) :=
  [(code, .number p.x), (code + 10, .number p.y), (code + 20, .number 0.0)]

def vertexFields (vertices : List Point) : List (Int × Value) :=
  vertices.flatMap fun p => [(10, .number p.x), (20, .number p.y)]

def shapeFields : Shape → List (Int × Value)
  | .line start finish => pointFields 10 start ++ pointFields 11 finish
  | .circle center radius => pointFields 10 center ++ [(40, .number radius)]
  | .arc center radius startAngle endAngle =>
    pointFields 10 center ++
      [(40, .number radius), (50, .number startAngle), (51, .number endAngle)]
  | .polyline vertices closed => (70, .number (if closed then 1 else 0)) :: vertexFields vertices
  | .text position height rotation content =>
    pointFields 10 position ++ [(40, .number height), (50, .number rotation), (1, .string content)]

/-- The codes and values of a description. -/
def fields (entity : Entity) : List (Int × Value) :=
  [(-1, .entity entity.id), (0, .string entity.shape.typeName), (8, .string entity.layer)] ++
    shapeFields entity.shape

def entryOf (field : Int × Value) : Value := entry field.1 field.2

theorem vertexEntries_eq (vertices : List Point) :
    vertexEntries vertices = (vertexFields vertices).map entryOf := by
  rw [vertexEntries, vertexFields, List.map_flatMap]
  rfl

theorem shapeEntries_eq (shape : Shape) : shapeEntries shape = (shapeFields shape).map entryOf := by
  cases shape with
  | polyline vertices closed => exact congrArg (List.cons _) (vertexEntries_eq vertices)
  | _ => rfl

theorem describe_eq (entity : Entity) :
    describe entity = .list ((fields entity).map entryOf) := by
  rw [describe, shapeEntries_eq, fields, List.map_append]
  rfl

theorem code_mem_of_mem_vertexFields {vertices : List Point} :
    ∀ field ∈ vertexFields vertices, field.1 ∈ usedCodes := by
  intro field hfield
  obtain ⟨point, -, hfield⟩ := List.mem_flatMap.mp hfield
  simp only [List.mem_cons, List.not_mem_nil, or_false] at hfield
  obtain rfl | rfl := hfield
  · simp [usedCodes]
  · simp [usedCodes]

theorem code_mem_of_mem_shapeFields {shape : Shape} :
    ∀ field ∈ shapeFields shape, field.1 ∈ usedCodes := by
  cases shape with
  | polyline vertices closed =>
      exact List.forall_mem_cons.mpr ⟨by simp [usedCodes], code_mem_of_mem_vertexFields⟩
  | _ => simp [shapeFields, pointFields, usedCodes]

theorem code_mem_of_mem_fields {entity : Entity} :
    ∀ field ∈ fields entity, field.1 ∈ usedCodes := by
  simp only [fields, List.forall_mem_append, List.forall_mem_cons]
  exact ⟨by simp [usedCodes], code_mem_of_mem_shapeFields⟩

theorem filterMap_pair?_entryOf {fields : List (Int × Value)}
    (h : ∀ field ∈ fields, field.1 ∈ usedCodes) :
    (fields.map entryOf).filterMap pair? = fields := by
  induction fields with
  | nil => rfl
  | cons field rest ih =>
      rw [List.forall_mem_cons] at h
      have hpair : pair? (entryOf field) = some field := pair?_entry h.1 field.2
      rw [List.map_cons, List.filterMap_cons_some hpair, ih h.2]

theorem pairs_describe (entity : Entity) : pairs (describe entity) = .ok (fields entity) := by
  rw [describe_eq]
  exact congrArg Except.ok (filterMap_pair?_entryOf code_mem_of_mem_fields)

end Fields

namespace Draft

theorem putAll_vertexFields {vertices old : List Point} {closed : Bool} {draft : Draft}
    (h : draft.data.shape = .polyline old closed) :
    draft.putAll (vertexFields vertices) =
      (⟨draft.data, (vertices.map Point.x).reverse ++ draft.xs,
        (vertices.map Point.y).reverse ++ draft.ys⟩, none) := by
  induction vertices generalizing draft with
  | nil => rfl
  | cons vertex rest ih =>
      obtain ⟨⟨layer, shape⟩, xs, ys⟩ := draft
      obtain rfl : shape = .polyline old closed := h
      change putAll ⟨⟨layer, .polyline old closed⟩, vertex.x :: xs, vertex.y :: ys⟩
        (vertexFields rest) = _
      rw [ih rfl]
      simp

theorem vertices_map (points : List Point) :
    vertices (points.map Point.x) (points.map Point.y) = points := by
  induction points with
  | nil => rfl
  | cons point rest ih => rw [List.map_cons, List.map_cons, vertices, ih]

theorem lowBit_flag (flag : Bool) : lowBit (if flag then 1 else 0) = flag := by
  cases flag <;> decide +kernel

theorem finish_vertices (layer other : String) (points old : List Point) (closed flag : Bool) :
    finish ⟨⟨layer, .polyline old closed⟩, (points.map Point.x).reverse,
        (points.map Point.y).reverse⟩ =
      EntityData.over ⟨layer, .polyline points closed⟩ ⟨other, .polyline old flag⟩ := by
  cases points with
  | nil => rfl
  | cons point rest =>
      have hnonempty : ((point :: rest).map Point.x).reverse.isEmpty = false := by simp
      rw [finish, hnonempty, List.reverse_reverse, List.reverse_reverse, vertices_map]
      rfl

/-- What a description makes of an entity with a shape of the same type. -/
theorem putAll_fields {entity : Entity} {data : EntityData}
    (h : data.shape.typeName = entity.shape.typeName) :
    ∃ draft, (begin data).putAll (fields entity) = (draft, none) ∧
      draft.finish = entity.toEntityData.over data := by
  obtain ⟨layer, old⟩ := data
  obtain ⟨⟨saved, shape⟩, id⟩ := entity
  cases shape with
  | line start finish =>
      cases old <;> simp [Shape.typeName] at h
      exact ⟨_, rfl, rfl⟩
  | circle center radius =>
      cases old <;> simp [Shape.typeName] at h
      exact ⟨_, rfl, rfl⟩
  | arc center radius startAngle endAngle =>
      cases old <;> simp [Shape.typeName] at h
      exact ⟨_, rfl, rfl⟩
  | text position height rotation content =>
      cases old <;> simp [Shape.typeName] at h
      exact ⟨_, rfl, rfl⟩
  | polyline vertices closed =>
      cases old <;> simp [Shape.typeName] at h
      rename_i oldVertices oldClosed
      refine ⟨_, ?_, finish_vertices saved layer vertices oldVertices closed oldClosed⟩
      change putAll ⟨⟨saved, .polyline oldVertices (lowBit _)⟩, [], []⟩ (vertexFields vertices) = _
      rw [lowBit_flag, putAll_vertexFields rfl, List.append_nil, List.append_nil]

theorem typeName_of_bind {result : Except Error α} {change : α → Draft} {name : String}
    {next : Draft} (h : (result >>= fun x => pure (change x)) = .ok next)
    (hchange : ∀ x, (change x).data.shape.typeName = name) :
    next.data.shape.typeName = name := by
  cases result with
  | error error => cases h
  | ok x =>
      cases h
      exact hchange x

/-- A shape keeps its type whatever is written over it. -/
theorem typeName_put {draft next : Draft} {code : Int} {value : Value}
    (h : draft.put code value = .ok next) :
    next.data.shape.typeName = draft.data.shape.typeName := by
  obtain ⟨⟨layer, shape⟩, xs, ys⟩ := draft
  unfold put at h
  split at h
  · exact typeName_of_bind h fun _ => rfl
  · dsimp only at h
    split at h
    all_goals first
      | exact typeName_of_bind h fun _ => rfl
      | cases h; rfl

theorem typeName_putAll (draft : Draft) (fields : List (Int × Value)) :
    (draft.putAll fields).1.data.shape.typeName = draft.data.shape.typeName := by
  induction fields generalizing draft with
  | nil => rfl
  | cons field rest ih =>
      obtain ⟨code, value⟩ := field
      rw [putAll]
      cases hput : draft.put code value with
      | error error => rfl
      | ok next => exact (ih next).trans (typeName_put hput)

theorem typeName_finish (draft : Draft) :
    draft.finish.shape.typeName = draft.data.shape.typeName := by
  obtain ⟨⟨layer, shape⟩, xs, ys⟩ := draft
  cases shape with
  | polyline vertices closed => cases xs <;> rfl
  | _ => rfl

end Draft

theorem typeName_overwriting (list : Value) (data : EntityData) :
    (overwriting list data).1.shape.typeName = data.shape.typeName := by
  unfold overwriting
  split
  · rfl
  · rename_i entries _
    have hall := Draft.typeName_putAll (.begin data) entries
    split
    · rename_i draft hdraft
      rw [hdraft] at hall
      exact (Draft.typeName_finish draft).trans hall
    · rename_i draft error hdraft
      rw [hdraft] at hall
      exact hall

theorem typeName_of_overwrite {list : Value} {data changed : EntityData}
    (h : overwrite list data = .ok changed) :
    changed.shape.typeName = data.shape.typeName := by
  have hsame := typeName_overwriting list data
  unfold overwrite at h
  split at h
  · rename_i hoverwriting
    cases h
    rw [hoverwriting] at hsame
    exact hsame
  · cases h

section

variable {entity : Entity} {data : EntityData}

theorem overwriting_describe (h : data.shape.typeName = entity.shape.typeName) :
    overwriting (describe entity) data = (entity.toEntityData.over data, none) := by
  obtain ⟨draft, hall, hfinish⟩ := Draft.putAll_fields h
  rw [overwriting, pairs_describe]
  simp only [hall, hfinish]

theorem overwrite_describe (h : data.shape.typeName = entity.shape.typeName) :
    overwrite (describe entity) data = .ok (entity.toEntityData.over data) := by
  rw [overwrite, overwriting_describe h]

variable (entity)

theorem entityId?_describe : entityId? (describe entity) = some entity.id := by
  rw [entityId?, pairs_describe]
  rfl

theorem upper_typeName (shape : Shape) : Text.upper shape.typeName = shape.typeName := by
  cases shape <;> simp only [Shape.typeName] <;> decide +kernel

/-- A type is found by its name, and its default has no vertices that a description could leave. -/
theorem exists_defaultShape? (data : EntityData) :
    ∃ shape, defaultShape? data.shape.typeName = some shape ∧
      shape.typeName = data.shape.typeName ∧ ∀ layer, data.over ⟨layer, shape⟩ = data := by
  obtain ⟨layer, shape⟩ := data
  cases shape with
  | polyline vertices closed => exact ⟨_, rfl, rfl, fun _ => by cases vertices <;> rfl⟩
  | _ => exact ⟨_, rfl, rfl, fun _ => rfl⟩

theorem create_describe (layer : String) :
    create (describe entity) layer = .ok entity.toEntityData := by
  obtain ⟨shape, hdefault, htype, hover⟩ := exists_defaultShape? entity.toEntityData
  have hlookup : (fields entity).lookup 0 = some (.string entity.shape.typeName) := rfl
  simp only [create, pairs_describe, hlookup, text, bind, Except.bind, upper_typeName, hdefault]
  rw [overwrite_describe htype, hover]

end

end Groups

end DraftLisp

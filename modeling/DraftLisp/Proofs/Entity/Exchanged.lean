import Mathlib.Data.List.Find
import DraftLisp.Builtin.Lists
import DraftLisp.Proofs.Entity.Slots
import DraftLisp.Proofs.Numeric.FloatBits

namespace DraftLisp.Groups

open Builtin.Lists

/-- The field with another value if it has the code. -/
def exchange (code : Int) (value : Value) (field : Int × Value) : Int × Value :=
  if field.1 = code then (code, value) else field

section Described

theorem ofInt_beq_usedCodes : ∀ code ∈ usedCodes, ∀ other ∈ usedCodes,
    (Numeric.ofInt code == Numeric.ofInt other) = decide (code = other) := by
  decide +kernel

variable {entity : Entity} {code : Int} {old : Value}

theorem forall_mem_vertexFields {P : Int × Value → Prop} (hx : ∀ x, P (10, .number x))
    (hy : ∀ y, P (20, .number y)) (vertices : List Point) :
    ∀ field ∈ vertexFields vertices, P field := by
  intro field hfield
  obtain ⟨point, -, hfield⟩ := List.mem_flatMap.mp hfield
  simp only [List.mem_cons, List.not_mem_nil, or_false] at hfield
  rcases hfield with rfl | rfl
  · exact hx _
  · exact hy _

theorem admits_fields : ∀ field ∈ fields entity, entity.shape.Admits field := by
  obtain ⟨⟨layer, shape⟩, id⟩ := entity
  cases shape with
  | polyline vertices closed =>
      simp only [fields, shapeFields, List.forall_mem_append, List.forall_mem_cons]
      exact ⟨by simp [Shape.admits_iff, Shape.numberCodes, Shape.textCodes],
        by simp [Shape.admits_iff, Shape.numberCodes, Shape.textCodes],
        forall_mem_vertexFields (by simp [Shape.admits_iff, Shape.textCodes])
          (by simp [Shape.admits_iff, Shape.textCodes]) vertices⟩
  | _ =>
      simp [fields, shapeFields, pointFields, Shape.admits_iff, Shape.numberCodes, Shape.textCodes]

/-- No value of a description is a list. -/
theorem ne_list_of_mem_fields : ∀ field ∈ fields entity, ∀ items, field.2 ≠ .list items := by
  obtain ⟨⟨layer, shape⟩, id⟩ := entity
  cases shape with
  | polyline vertices closed =>
      simp only [fields, shapeFields, List.forall_mem_append, List.forall_mem_cons]
      exact ⟨by simp, by simp, forall_mem_vertexFields (by simp) (by simp) vertices⟩
  | _ => simp [fields, shapeFields, pointFields]

theorem codes_usedCodes (shape : Shape) : ∀ code ∈ shape.codes, code ∈ usedCodes := by
  cases shape <;> simp [Shape.codes, Shape.numberCodes, Shape.textCodes, usedCodes]

/-- A value that is no NaN is found again. -/
theorem beq_self_of_admits {shape : Shape} (hcode : code ∈ shape.codes)
    (hadmits : shape.Admits (code, old)) (hnan : ∀ x, old = .number x → x.isNaN = false) :
    (old == old) = true := by
  rcases List.mem_append.mp hcode with hnumber | htext
  · obtain ⟨x, rfl⟩ := hadmits.number hnumber
    exact Numeric.beq_self_of_isNaN (hnan x rfl)
  · obtain ⟨content, rfl⟩ := hadmits.text htext
    exact beq_self_eq_true content

theorem eq_of_given (hgiven : given code (fields entity) = [old]) {field : Int × Value}
    (hfield : field ∈ fields entity) (hcode : field.1 = code) : field.2 = old := by
  have hmem : field.2 ∈ given code (fields entity) := by
    rw [mem_given, ← hcode]
    exact hfield
  rw [hgiven] at hmem
  exact List.mem_singleton.mp hmem

/-- The only entry with a code is the first that has it. -/
theorem find?_of_given {entries : List (Int × Value)} (hgiven : given code entries = [old]) :
    entries.find? (·.1 = code) = some (code, old) := by
  rw [← List.head?_filter]
  unfold given at hgiven
  obtain ⟨field, hfilter, hvalue⟩ := List.map_eq_singleton_iff.mp hgiven
  have hcode : field.1 = code := by
    have hmem : field ∈ entries.filter (·.1 = code) := by
      rw [hfilter]
      exact List.mem_singleton_self field
    simpa using (List.mem_filter.mp hmem).2
  rw [hfilter, ← hcode, ← hvalue]
  rfl

theorem assoc_describe (hcode : code ∈ usedCodes) (hgiven : given code (fields entity) = [old]) :
    assoc (.number (Numeric.ofInt code)) ((fields entity).map entryOf) = entry code old := by
  have hsame : ∀ field ∈ fields entity,
      ((Numeric.ofInt field.1 == Numeric.ofInt code) : Bool) = decide (field.1 = code) :=
    fun field hfield => ofInt_beq_usedCodes _ (code_mem_of_mem_fields field hfield) code hcode
  have hfound : (fields entity).find? (fun field => Numeric.ofInt field.1 == Numeric.ofInt code) =
      some (code, old) := by
    rw [← find?_of_given hgiven]
    exact List.find?_congr hsame
  rw [assoc, List.find?_map]
  change Value.ofOption (((fields entity).find? fun field =>
    Numeric.ofInt field.1 == Numeric.ofInt code).map entryOf) = _
  rw [hfound]
  rfl

theorem entry_beq {other : Int} (hcode : code ∈ usedCodes) (hother : other ∈ usedCodes)
    (value : Value) :
    (entry other value == entry code old) = (decide (other = code) && value == old) := by
  rw [← ofInt_beq_usedCodes other hother code hcode]
  change ((Numeric.ofInt other == Numeric.ofInt code) && ((value == old) && true)) = _
  rw [Bool.and_true]

theorem substitute_of_ne_list {new value : Value} (code : Int) (old : Value)
    (h : ∀ items, value ≠ .list items) : substitute new (entry code old) value = value := by
  cases value with
  | list items => exact absurd rfl (h items)
  | _ => rfl

theorem substitute_entryOf {field : Int × Value} (new : Value) (hcode : code ∈ usedCodes)
    (hfield : field.1 ∈ usedCodes) (hvalue : ∀ items, field.2 ≠ .list items) :
    substitute new (entry code old) (entryOf field) =
      if field.1 = code ∧ (field.2 == old) = true then new else entryOf field := by
  have hequal : (entryOf field == entry code old) = _ := entry_beq hcode hfield field.2
  unfold substitute
  rw [hequal]
  simp only [Bool.and_eq_true, decide_eq_true_eq]
  split
  · rfl
  · change Value.ofList [.number _, substitute new (entry code old) field.2] = _
    rw [substitute_of_ne_list code old hvalue]
    rfl

theorem substituteItems_eq_map (new old : Value) (items : List Value) :
    substituteItems new old items = items.map (substitute new old) := by
  induction items with
  | nil => rfl
  | cons item rest ih => rw [substituteItems, ih, List.map_cons]

/-- A description starts with an entry and not with a number. -/
theorem describe_beq_entry (entity : Entity) (code : Int) (old : Value) :
    (describe entity == entry code old) = false :=
  rfl

/-- No other part of a description is equal to the only entry with a code. -/
theorem substitute_describe {value : Value} (hcode : code ∈ usedCodes)
    (hgiven : given code (fields entity) = [old]) (hold : (old == old) = true) :
    substitute (entry code value) (entry code old) (describe entity) =
      .list (((fields entity).map (exchange code value)).map entryOf) := by
  have hentries : ∀ field ∈ fields entity,
      substitute (entry code value) (entry code old) (entryOf field) =
        entryOf (exchange code value field) := by
    intro field hfield
    rw [substitute_entryOf _ hcode (code_mem_of_mem_fields field hfield)
      (ne_list_of_mem_fields field hfield), exchange]
    by_cases hsame : field.1 = code
    · rw [eq_of_given hgiven hfield hsame, if_pos ⟨hsame, hold⟩, if_pos hsame]
      rfl
    · rw [if_neg fun h => hsame h.1, if_neg hsame]
  have hother := describe_beq_entry entity code old
  rw [describe_eq] at hother ⊢
  rw [substitute, hother, substituteItems_eq_map, List.map_map, List.map_map]
  exact congrArg Value.ofList (List.map_congr_left hentries)

end Described

section Exchanged

variable {entity : Entity} {code : Int} {old value : Value}

theorem fields_exchange_polyline (hcode : code ≠ 10 ∧ code ≠ 20) (layer : String)
    (vertices : List Point) (closed : Bool) (id : EntityId) :
    (fields ⟨⟨layer, .polyline vertices closed⟩, id⟩).map (exchange code value) =
      [(-1, .entity id), (0, .string "LWPOLYLINE"), (8, .string layer),
        (70, .number (if closed then 1 else 0))].map (exchange code value) ++
          vertexFields vertices := by
  have hsame : ∀ field ∈ vertexFields vertices, exchange code value field = field :=
    forall_mem_vertexFields (fun _ => if_neg hcode.1.symm) (fun _ => if_neg hcode.2.symm) vertices
  have hvertices : (vertexFields vertices).map (exchange code value) = vertexFields vertices := by
    rw [List.map_congr_left hsame, List.map_id']
  refine Eq.trans ?_ (congrArg (_ ++ ·) hvertices)
  rw [← List.map_append]
  rfl

theorem given_vertexFields {vertices : List Point} :
    given 10 (vertexFields vertices) = vertices.map (fun vertex => .number vertex.x) ∧
      given 20 (vertexFields vertices) = vertices.map (fun vertex => .number vertex.y) := by
  induction vertices with
  | nil => exact ⟨rfl, rfl⟩
  | cons vertex rest ih =>
      exact ⟨congrArg (List.cons (Value.number vertex.x)) ih.1,
        congrArg (List.cons (Value.number vertex.y)) ih.2⟩

/-- Data whose description differs from that of an entity in the value of one code. -/
structure Exchanged (entity : Entity) (code : Int) (value : Value) (data : EntityData) : Prop where
  typeName : data.shape.typeName = entity.shape.typeName
  whole : data.over entity.toEntityData = data
  fields : fields { data with id := entity.id } = (fields entity).map (exchange code value)

theorem exists_exchanged_layer (entity : Entity) (content : String) :
    ∃ data, Exchanged entity 8 (.string content) data := by
  obtain ⟨⟨layer, shape⟩, id⟩ := entity
  refine ⟨⟨content, shape⟩, rfl, ?_, ?_⟩
  · cases shape with
    | polyline vertices closed => cases vertices <;> rfl
    | _ => rfl
  · cases shape with
    | polyline vertices closed =>
        rw [fields_exchange_polyline (by decide)]
        rfl
    | _ => rfl

theorem exists_exchanged_polyline {layer : String} {vertices : List Point} {closed : Bool}
    {id : EntityId} (hcode : code = 10 ∨ code = 20 ∨ code = 70) (x : Float)
    (hgiven : given code (fields ⟨⟨layer, .polyline vertices closed⟩, id⟩) = [old]) :
    ∃ data,
      Exchanged ⟨⟨layer, .polyline vertices closed⟩, id⟩ code (kept code (.number x)) data := by
  have hone : code = 10 ∨ code = 20 → ∃ vertex, vertices = [vertex] := by
    rintro (rfl | rfl)
    · change given 10 (vertexFields vertices) = [old] at hgiven
      rw [given_vertexFields.1, List.map_eq_singleton_iff] at hgiven
      exact ⟨hgiven.choose, hgiven.choose_spec.1⟩
    · change given 20 (vertexFields vertices) = [old] at hgiven
      rw [given_vertexFields.2, List.map_eq_singleton_iff] at hgiven
      exact ⟨hgiven.choose, hgiven.choose_spec.1⟩
  rcases hcode with rfl | rfl | rfl
  · obtain ⟨vertex, rfl⟩ := hone (.inl rfl)
    exact ⟨⟨layer, .polyline [⟨x, vertex.y⟩] closed⟩, rfl, rfl, rfl⟩
  · obtain ⟨vertex, rfl⟩ := hone (.inr rfl)
    exact ⟨⟨layer, .polyline [⟨vertex.x, x⟩] closed⟩, rfl, rfl, rfl⟩
  · refine ⟨⟨layer, .polyline vertices (Draft.lowBit x)⟩, rfl, ?_, ?_⟩
    · cases vertices <;> rfl
    · rw [fields_exchange_polyline (by decide)]
      rfl

theorem exists_exchanged (hcode : code ∈ entity.shape.codes)
    (hadmits : entity.shape.Admits (code, value))
    (hgiven : given code (fields entity) = [old]) :
    ∃ data, Exchanged entity code (kept code value) data := by
  by_cases hlayer : code = 8
  · subst hlayer
    obtain ⟨content, rfl⟩ := hadmits.text (by cases entity.shape <;> simp [Shape.textCodes])
    exact exists_exchanged_layer entity content
  obtain ⟨⟨layer, shape⟩, id⟩ := entity
  have hnumber (h : code ∈ shape.numberCodes) : ∃ x, value = .number x := hadmits.number h
  cases shape <;>
    simp only [Shape.codes, Shape.numberCodes, Shape.textCodes, List.mem_append, List.mem_cons,
      List.not_mem_nil, or_false, hlayer, false_or, or_assoc] at hcode hnumber
  case line start finish =>
      obtain ⟨x, rfl⟩ := hnumber hcode
      rcases hcode with rfl | rfl | rfl | rfl
      · exact ⟨⟨layer, .line ⟨x, start.y⟩ finish⟩, rfl, rfl, rfl⟩
      · exact ⟨⟨layer, .line ⟨start.x, x⟩ finish⟩, rfl, rfl, rfl⟩
      · exact ⟨⟨layer, .line start ⟨x, finish.y⟩⟩, rfl, rfl, rfl⟩
      · exact ⟨⟨layer, .line start ⟨finish.x, x⟩⟩, rfl, rfl, rfl⟩
  case circle center radius =>
      obtain ⟨x, rfl⟩ := hnumber hcode
      rcases hcode with rfl | rfl | rfl
      · exact ⟨⟨layer, .circle ⟨x, center.y⟩ radius⟩, rfl, rfl, rfl⟩
      · exact ⟨⟨layer, .circle ⟨center.x, x⟩ radius⟩, rfl, rfl, rfl⟩
      · exact ⟨⟨layer, .circle center x⟩, rfl, rfl, rfl⟩
  case arc center radius first last =>
      obtain ⟨x, rfl⟩ := hnumber hcode
      rcases hcode with rfl | rfl | rfl | rfl | rfl
      · exact ⟨⟨layer, .arc ⟨x, center.y⟩ radius first last⟩, rfl, rfl, rfl⟩
      · exact ⟨⟨layer, .arc ⟨center.x, x⟩ radius first last⟩, rfl, rfl, rfl⟩
      · exact ⟨⟨layer, .arc center x first last⟩, rfl, rfl, rfl⟩
      · exact ⟨⟨layer, .arc center radius x last⟩, rfl, rfl, rfl⟩
      · exact ⟨⟨layer, .arc center radius first x⟩, rfl, rfl, rfl⟩
  case polyline vertices closed =>
      obtain ⟨x, rfl⟩ := hnumber hcode
      exact exists_exchanged_polyline hcode x hgiven
  case text position height rotation content =>
      rcases hcode with rfl | rfl | rfl | rfl | rfl
      case inr.inr.inr.inr =>
        obtain ⟨new, rfl⟩ := hadmits.text (by simp [Shape.textCodes])
        exact ⟨⟨layer, .text position height rotation new⟩, rfl, rfl, rfl⟩
      all_goals obtain ⟨x, rfl⟩ := hnumber (by simp)
      · exact ⟨⟨layer, .text ⟨x, position.y⟩ height rotation content⟩, rfl, rfl, rfl⟩
      · exact ⟨⟨layer, .text ⟨position.x, x⟩ height rotation content⟩, rfl, rfl, rfl⟩
      · exact ⟨⟨layer, .text position x rotation content⟩, rfl, rfl, rfl⟩
      · exact ⟨⟨layer, .text position height x content⟩, rfl, rfl, rfl⟩

theorem kept_kept (code : Int) (value : Value) : kept code (kept code value) = kept code value := by
  by_cases hflags : code = 70
  · subst hflags
    cases value with
    | number x =>
        exact congrArg (fun flag => Value.number (if flag then 1 else 0)) (Draft.lowBit_flag _)
    | _ => rfl
  · have hkept : ∀ value, kept code value = value := by
      intro value
      unfold kept
      split
      · exact absurd rfl hflags
      · rfl
    rw [hkept, hkept]

theorem map_kept_given (code : Int) (entries : List (Int × Value)) :
    (given code entries).map (kept code) =
      given code (entries.map fun entry => (entry.1, kept entry.1 entry.2)) := by
  simp only [given, List.filter_map, List.map_map]
  refine List.map_congr_left fun entry hentry => ?_
  have hcode : entry.1 = code := by simpa using (List.mem_filter.mp hentry).2
  simp [hcode]

theorem map_kept_exchange (code other : Int) (value : Value) (entries : List (Int × Value)) :
    (given other (entries.map (exchange code (kept code value)))).map (kept other) =
      (given other (entries.map (exchange code value))).map (kept other) := by
  rw [map_kept_given, map_kept_given, List.map_map, List.map_map]
  refine congrArg (given other) (List.map_congr_left fun entry _ => ?_)
  by_cases hcode : entry.1 = code
  · simp [exchange, hcode, kept_kept]
  · simp [exchange, hcode]

theorem admits_exchange {value : Value} (hadmits : entity.shape.Admits (code, value)) :
    ∀ field ∈ (fields entity).map (exchange code value), entity.shape.Admits field := by
  rw [List.forall_mem_map]
  intro field hfield
  unfold exchange
  split
  · exact hadmits
  · exact admits_fields field hfield

theorem exchange_usedCodes {value : Value} (hused : code ∈ usedCodes) :
    ∀ field ∈ (fields entity).map (exchange code value), field.1 ∈ usedCodes := by
  rw [List.forall_mem_map]
  intro field hfield
  unfold exchange
  split
  · exact hused
  · exact code_mem_of_mem_fields field hfield

theorem admits_kept {shape : Shape} (h : shape.Admits (code, value)) :
    shape.Admits (code, kept code value) := by
  unfold kept
  split
  · exact ⟨fun _ => ⟨_, rfl⟩, fun htext => by simpa using h.text htext⟩
  · exact h

theorem pairs_exchanged (hused : code ∈ usedCodes) :
    pairs (.list (((fields entity).map (exchange code value)).map entryOf)) =
      .ok ((fields entity).map (exchange code value)) :=
  congrArg Except.ok (filterMap_pair?_entryOf (exchange_usedCodes hused))

theorem entityId?_exchanged (hcode : code ∈ entity.shape.codes) :
    entityId? (.list (((fields entity).map (exchange code value)).map entryOf)) =
      some entity.id := by
  have hname : (-1 : Int) ≠ code := by
    rintro rfl
    cases hshape : entity.shape <;>
      simp [hshape, Shape.codes, Shape.numberCodes, Shape.textCodes] at hcode
  have hkept : exchange code value (-1, .entity entity.id) = (-1, .entity entity.id) :=
    if_neg hname
  rw [entityId?, pairs_exchanged (codes_usedCodes _ code hcode)]
  change (exchange code value (-1, .entity entity.id) :: _).findSome? _ = _
  rw [hkept]
  rfl

/-- A description with one entry exchanged, written over its entity. -/
theorem overwrite_exchanged {data : EntityData} (hadmits : entity.shape.Admits (code, value))
    (hused : code ∈ usedCodes) (h : Exchanged entity code (kept code value) data) :
    overwrite (.list (((fields entity).map (exchange code value)).map entryOf))
      entity.toEntityData = .ok data := by
  obtain ⟨changed, hchanged, hover⟩ :=
    overwriting_of_admits (pairs_exchanged hused) (admits_exchange hadmits)
  -- The description of the result is the same list up to what the field keeps of the value.
  let edited : Entity := { data with id := entity.id }
  have hpairs' : pairs (describe edited) = .ok (fields edited) := pairs_describe edited
  rw [h.fields] at hpairs'
  obtain ⟨result, hresult, hover'⟩ :=
    overwriting_of_admits hpairs' (admits_exchange (admits_kept hadmits))
  have htype : entity.shape.typeName = edited.shape.typeName := h.typeName.symm
  have hdescribed : overwriting (describe edited) entity.toEntityData = (data, none) :=
    (overwriting_describe htype).trans (congrArg (·, none) h.whole)
  obtain rfl : result = data := congrArg Prod.fst (hresult.symm.trans hdescribed)
  have hsame : result = changed :=
    hover.eq_of_kept hover' fun other _ => map_kept_exchange code other value (fields entity)
  rw [overwrite, hchanged, hsame]

end Exchanged

end DraftLisp.Groups

import DraftLisp.Proofs.Entity.Described

namespace DraftLisp

namespace Shape

/-- The codes that take numbers, those of vertices included. -/
def numberCodes : Shape → List Int
  | .line .. => [10, 20, 11, 21]
  | .circle .. => [10, 20, 40]
  | .arc .. => [10, 20, 40, 50, 51]
  | .polyline .. => [10, 20, 70]
  | .text .. => [10, 20, 40, 50]

/-- The codes that take texts; the layer is one of them. -/
def textCodes : Shape → List Int
  | .text .. => [8, 1]
  | _ => [8]

/-- The codes that name a field of a shape, or of its vertices. -/
def codes (shape : Shape) : List Int := shape.numberCodes ++ shape.textCodes

/-- The value has the type that the code takes. A code that names no field takes every value. -/
structure Admits (shape : Shape) (entry : Int × Value) : Prop where
  number : entry.1 ∈ shape.numberCodes → ∃ x, entry.2 = .number x
  text : entry.1 ∈ shape.textCodes → ∃ content, entry.2 = .string content

theorem admits_iff {shape : Shape} {code : Int} {value : Value} :
    shape.Admits (code, value) ↔
      (code ∈ shape.numberCodes → ∃ x, value = .number x) ∧
        (code ∈ shape.textCodes → ∃ content, value = .string content) :=
  ⟨fun h => ⟨h.number, h.text⟩, fun h => ⟨h.1, h.2⟩⟩

def vertices : Shape → List Point
  | .polyline vertices _ => vertices
  | _ => []

/-- The fields of a shape that hold one value each, under their codes. -/
def slots : Shape → List (Int × Value)
  | .line start finish =>
    [(10, .number start.x), (20, .number start.y), (11, .number finish.x), (21, .number finish.y)]
  | .circle center radius =>
    [(10, .number center.x), (20, .number center.y), (40, .number radius)]
  | .arc center radius startAngle endAngle =>
    [(10, .number center.x), (20, .number center.y), (40, .number radius),
      (50, .number startAngle), (51, .number endAngle)]
  | .polyline _ closed => [(70, .number (if closed then 1 else 0))]
  | .text position height rotation content =>
    [(10, .number position.x), (20, .number position.y), (40, .number height),
      (50, .number rotation), (1, .string content)]

end Shape

namespace EntityData

def slots (data : EntityData) : List (Int × Value) := (8, .string data.layer) :: data.shape.slots

/-- The value of the field that a code names. -/
def slot? (data : EntityData) (code : Int) : Option Value := data.slots.lookup code

end EntityData

namespace Groups

/-- The values that entries give to a code, in order. -/
def given (code : Int) (entries : List (Int × Value)) : List Value :=
  (entries.filter (·.1 = code)).map (·.2)

/-- What a field keeps of a value: all of it, but only the lowest bit of flags. -/
def kept (code : Int) (value : Value) : Value :=
  match code, value with
  | 70, .number x => .number (if Draft.lowBit x then 1 else 0)
  | _, value => value

/-- The value of a field after entries were written over it: the last one counts. -/
def written (entries : List (Int × Value)) (code : Int) (old : Value) : Value :=
  ((given code entries).getLast?.map (kept code)).getD old

def writtenAll (entries : List (Int × Value)) (slots : List (Int × Value)) : List (Int × Value) :=
  slots.map fun slot => (slot.1, written entries slot.1 slot.2)

/-- The vertex coordinates that entries give to a code; only polylines have vertices. -/
def coordinates (shape : Shape) (code : Int) (entries : List (Int × Value)) : List Float :=
  match shape with
  | .polyline .. => (given code entries).filterMap Value.number?
  | _ => []

theorem mem_given {value : Value} {code : Int} {entries : List (Int × Value)} :
    value ∈ given code entries ↔ (code, value) ∈ entries := by
  simp [given]

theorem given_append (code : Int) (first second : List (Int × Value)) :
    given code (first ++ second) = given code first ++ given code second := by
  simp [given]

theorem written_append (first second : List (Int × Value)) (code : Int) (old : Value) :
    written (first ++ second) code old = written second code (written first code old) := by
  unfold written
  rw [given_append, List.getLast?_append]
  cases (given code second).getLast? <;> rfl

@[simp]
theorem writtenAll_nil (slots : List (Int × Value)) : writtenAll [] slots = slots := by
  simp [writtenAll, written, given]

theorem writtenAll_append (first second slots : List (Int × Value)) :
    writtenAll (first ++ second) slots = writtenAll second (writtenAll first slots) := by
  simp only [writtenAll, List.map_map, Function.comp_def, written_append]

@[simp]
theorem coordinates_nil (shape : Shape) (code : Int) : coordinates shape code [] = [] := by
  cases shape <;> rfl

theorem coordinates_append (shape : Shape) (code : Int) (first second : List (Int × Value)) :
    coordinates shape code (first ++ second) =
      coordinates shape code first ++ coordinates shape code second := by
  cases shape <;> simp [coordinates, given_append]

theorem coordinates_of_given {vertices : List Point} {closed : Bool} {code : Int}
    {entries : List (Int × Value)} {xs : List Float} (h : given code entries = xs.map .number) :
    coordinates (.polyline vertices closed) code entries = xs := by
  simp only [coordinates, h, List.filterMap_map, Function.comp_def, Value.number?,
    List.filterMap_some]

end Groups

section SameType

variable {shape other : Shape} (h : other.typeName = shape.typeName)

include h

theorem Shape.Admits.of_typeName {entry : Int × Value} (hentry : shape.Admits entry) :
    other.Admits entry := by
  obtain ⟨hnumber, htext⟩ := hentry
  cases shape <;> cases other <;> first | exact ⟨hnumber, htext⟩ | simp [Shape.typeName] at h

theorem Groups.coordinates_of_typeName (code : Int) (entries : List (Int × Value)) :
    coordinates other code entries = coordinates shape code entries := by
  cases shape <;> cases other <;> first | rfl | simp [Shape.typeName] at h

end SameType

theorem flag_injective {flag other : Bool}
    (h : (if flag then 1 else 0 : Float) = if other then 1 else 0) : flag = other := by
  rw [← Groups.Draft.lowBit_flag flag, h, Groups.Draft.lowBit_flag]

attribute [ext] Point

/-- The type, the fields with one value and the vertices are all that there is. -/
theorem EntityData.ext_slots {data other : EntityData}
    (htype : data.shape.typeName = other.shape.typeName) (hslots : data.slots = other.slots)
    (hvertices : data.shape.vertices = other.shape.vertices) : data = other := by
  obtain ⟨layer, shape⟩ := data
  obtain ⟨layer', shape'⟩ := other
  cases shape with
  | polyline points closed =>
      cases shape' <;> simp [Shape.typeName] at htype
      obtain rfl : points = _ := hvertices
      simp only [EntityData.slots, Shape.slots, List.cons.injEq, Prod.mk.injEq, Value.string.injEq,
        Value.number.injEq, true_and, and_true] at hslots
      obtain ⟨rfl, hflag⟩ := hslots
      rw [flag_injective hflag]
  | _ =>
      cases shape' <;> simp_all [Shape.typeName, EntityData.slots, Shape.slots, Point.ext_iff]

namespace Groups

namespace Draft

/-- The draft after entries that all could be written. -/
structure Took (draft : Draft) (entries : List (Int × Value)) (next : Draft) : Prop where
  typeName : next.data.shape.typeName = draft.data.shape.typeName
  slots : next.data.slots = writtenAll entries draft.data.slots
  vertices : next.data.shape.vertices = draft.data.shape.vertices
  xs : next.xs = (coordinates draft.data.shape 10 entries).reverse ++ draft.xs
  ys : next.ys = (coordinates draft.data.shape 20 entries).reverse ++ draft.ys

theorem Took.nil (draft : Draft) : draft.Took [] draft where
  typeName := rfl
  slots := (writtenAll_nil _).symm
  vertices := rfl
  xs := by rw [coordinates_nil]; rfl
  ys := by rw [coordinates_nil]; rfl

theorem Took.append {draft middle next : Draft} {first second : List (Int × Value)}
    (hfirst : draft.Took first middle) (hsecond : middle.Took second next) :
    draft.Took (first ++ second) next where
  typeName := hsecond.typeName.trans hfirst.typeName
  slots := by rw [hsecond.slots, hfirst.slots, writtenAll_append]
  vertices := hsecond.vertices.trans hfirst.vertices
  xs := by
    rw [hsecond.xs, hfirst.xs, coordinates_of_typeName hfirst.typeName, coordinates_append,
      List.reverse_append, List.append_assoc]
  ys := by
    rw [hsecond.ys, hfirst.ys, coordinates_of_typeName hfirst.typeName, coordinates_append,
      List.reverse_append, List.append_assoc]

section Put

variable {draft : Draft} {code : Int}

theorem put_number (h : code ∈ draft.data.shape.numberCodes) (x : Float) :
    ∃ next, draft.put code (.number x) = .ok next ∧ draft.Took [(code, .number x)] next := by
  obtain ⟨⟨layer, shape⟩, xs, ys⟩ := draft
  cases shape <;>
    simp only [Shape.numberCodes, List.mem_cons, List.not_mem_nil, or_false] at h <;>
    rcases h with rfl | rfl | rfl | rfl | rfl <;>
    exact ⟨_, rfl, rfl, rfl, rfl, rfl, rfl⟩

theorem put_text (h : code ∈ draft.data.shape.textCodes) (content : String) :
    ∃ next, draft.put code (.string content) = .ok next ∧
      draft.Took [(code, .string content)] next := by
  obtain ⟨⟨layer, shape⟩, xs, ys⟩ := draft
  cases shape <;>
    simp only [Shape.textCodes, List.mem_cons, List.not_mem_nil, or_false] at h <;>
    rcases h with rfl | rfl <;>
    exact ⟨_, rfl, rfl, rfl, rfl, rfl, rfl⟩

theorem put_other (hnumber : code ∉ draft.data.shape.numberCodes)
    (htext : code ∉ draft.data.shape.textCodes) (value : Value) :
    draft.put code value = .ok draft ∧ draft.Took [(code, value)] draft := by
  obtain ⟨⟨layer, shape⟩, xs, ys⟩ := draft
  cases shape <;>
    simp only [Shape.numberCodes, Shape.textCodes, List.mem_cons, List.not_mem_nil, or_false,
      not_or] at hnumber htext
  all_goals
    refine ⟨by simp [put, *], rfl, ?_, rfl, ?_, ?_⟩
    all_goals simp [EntityData.slots, Shape.slots, writtenAll, written, given, coordinates, *]

theorem put_of_admits {value : Value} (h : draft.data.shape.Admits (code, value)) :
    ∃ next, draft.put code value = .ok next ∧ draft.Took [(code, value)] next := by
  by_cases hnumber : code ∈ draft.data.shape.numberCodes
  · obtain ⟨x, rfl⟩ := h.number hnumber
    exact put_number hnumber x
  by_cases htext : code ∈ draft.data.shape.textCodes
  · obtain ⟨content, rfl⟩ := h.text htext
    exact put_text htext content
  exact ⟨draft, put_other hnumber htext value⟩

theorem put_not_number {value : Value} (h : code ∈ draft.data.shape.numberCodes)
    (hvalue : ∀ x, value ≠ .number x) :
    draft.put code value = .error (.type (.group code "number" value)) := by
  have hrefused : number code value = .error (.type (.group code "number" value)) := by
    cases value <;> first | rfl | exact absurd rfl (hvalue _)
  obtain ⟨⟨layer, shape⟩, xs, ys⟩ := draft
  cases shape <;>
    simp only [Shape.numberCodes, List.mem_cons, List.not_mem_nil, or_false] at h <;>
    rcases h with rfl | rfl | rfl | rfl | rfl <;>
    simp only [put, hrefused] <;> rfl

theorem put_not_text {value : Value} (h : code ∈ draft.data.shape.textCodes)
    (hvalue : ∀ content, value ≠ .string content) :
    draft.put code value = .error (.type (.group code "string" value)) := by
  have hrefused : text code value = .error (.type (.group code "string" value)) := by
    cases value <;> first | rfl | exact absurd rfl (hvalue _)
  obtain ⟨⟨layer, shape⟩, xs, ys⟩ := draft
  cases shape <;>
    simp only [Shape.textCodes, List.mem_cons, List.not_mem_nil, or_false] at h <;>
    rcases h with rfl | rfl <;>
    simp only [put, hrefused] <;> rfl

theorem put_of_not_admits {value : Value} (h : ¬draft.data.shape.Admits (code, value)) :
    ∃ fault, draft.put code value = .error (.type fault) := by
  by_cases hnumber : code ∈ draft.data.shape.numberCodes → ∃ x, value = .number x
  · have htext : ¬(code ∈ draft.data.shape.textCodes → ∃ content, value = .string content) :=
      fun htext => h ⟨hnumber, htext⟩
    obtain ⟨hcode, hvalue⟩ := Classical.not_imp.mp htext
    exact ⟨_, put_not_text hcode (not_exists.mp hvalue)⟩
  · obtain ⟨hcode, hvalue⟩ := Classical.not_imp.mp hnumber
    exact ⟨_, put_not_number hcode (not_exists.mp hvalue)⟩

end Put

/-- Entries are written one after the other, up to the first that the shape does not admit. -/
theorem putAll_of_admits {draft : Draft} {entries : List (Int × Value)}
    (h : ∀ entry ∈ entries, draft.data.shape.Admits entry) :
    ∃ next, draft.putAll entries = (next, none) ∧ draft.Took entries next := by
  induction entries generalizing draft with
  | nil => exact ⟨draft, rfl, .nil draft⟩
  | cons entry rest ih =>
      obtain ⟨code, value⟩ := entry
      rw [List.forall_mem_cons] at h
      obtain ⟨middle, hput, htook⟩ := put_of_admits h.1
      obtain ⟨next, hall, hrest⟩ :=
        ih fun entry hentry => (h.2 entry hentry).of_typeName htook.typeName
      refine ⟨next, ?_, htook.append hrest⟩
      rw [putAll, hput]
      exact hall

theorem putAll_of_not_admits {draft : Draft} {entries : List (Int × Value)}
    (h : ∃ entry ∈ entries, ¬draft.data.shape.Admits entry) :
    ∃ next fault, draft.putAll entries = (next, some (.type fault)) := by
  induction entries generalizing draft with
  | nil => simp at h
  | cons entry rest ih =>
      obtain ⟨code, value⟩ := entry
      by_cases hentry : draft.data.shape.Admits (code, value)
      · obtain ⟨middle, hput, htook⟩ := put_of_admits hentry
        obtain ⟨refused, hrefused, hadmits⟩ := h
        have hrest : ∃ entry ∈ rest, ¬middle.data.shape.Admits entry := by
          obtain rfl | hrest := List.mem_cons.mp hrefused
          · exact absurd hentry hadmits
          · exact ⟨refused, hrest, fun hmiddle => hadmits (hmiddle.of_typeName htook.typeName.symm)⟩
        rw [putAll, hput]
        exact ih hrest
      · obtain ⟨fault, hput⟩ := put_of_not_admits hentry
        exact ⟨draft, fault, by rw [putAll, hput]⟩

theorem map_x_vertices (xs ys : List Float) : (vertices xs ys).map Point.x = xs := by
  induction xs generalizing ys with
  | nil => rfl
  | cons x rest ih => cases ys <;> simp [vertices, ih]

theorem length_vertices (xs ys : List Float) : (vertices xs ys).length = xs.length := by
  rw [← List.length_map Point.x, map_x_vertices]

end Draft

/-- What becomes of an entity that entries are written over. -/
structure Overwritten (data : EntityData) (entries : List (Int × Value)) (changed : EntityData) :
    Prop where
  typeName : changed.shape.typeName = data.shape.typeName
  slots : changed.slots = writtenAll entries data.slots
  vertices : changed.shape.vertices =
    if coordinates data.shape 10 entries = [] then data.shape.vertices
    else Draft.vertices (coordinates data.shape 10 entries) (coordinates data.shape 20 entries)

theorem Draft.Took.finish {data : EntityData} {entries : List (Int × Value)} {next : Draft}
    (h : (Draft.begin data).Took entries next) : Overwritten data entries next.finish where
  typeName := (Draft.typeName_finish next).trans h.typeName
  slots := by
    have hslots : next.data.slots = writtenAll entries data.slots := h.slots
    rw [← hslots]
    obtain ⟨⟨layer, shape⟩, xs, ys⟩ := next
    cases shape <;> first | rfl | cases xs <;> rfl
  vertices := by
    obtain ⟨⟨layer', shape'⟩, xs, ys⟩ := next
    obtain ⟨layer, shape⟩ := data
    obtain ⟨htype, -, hvertices, hxs, hys⟩ := h
    simp only [Draft.begin, List.append_nil] at htype hvertices hxs hys
    rw [← hvertices]
    cases shape' with
    | polyline points closed =>
        subst hxs hys
        by_cases hnone : coordinates shape 10 entries = [] <;>
          simp [Draft.finish, Shape.vertices, hnone]
    | _ => cases shape <;> first | rfl | simp [Shape.typeName] at htype

theorem lookup_writtenAll (entries slots : List (Int × Value)) (code : Int) :
    (writtenAll entries slots).lookup code = (slots.lookup code).map (written entries code) := by
  induction slots with
  | nil => rfl
  | cons slot rest ih =>
      obtain ⟨other, value⟩ := slot
      have ih : (rest.map fun slot => (slot.1, written entries slot.1 slot.2)).lookup code =
        (rest.lookup code).map (written entries code) := ih
      simp only [writtenAll, List.map_cons, List.lookup_cons]
      by_cases hcode : code = other
      · subst hcode
        simp
      · have hne : (code == other) = false := by simpa using hcode
        simp only [hne, ih]

theorem written_written (entries : List (Int × Value)) (code : Int) (old : Value) :
    written entries code (written entries code old) = written entries code old := by
  unfold written
  cases (given code entries).getLast? <;> rfl

theorem codes_slots (data : EntityData) :
    ∀ slot ∈ data.slots, slot.1 ∈ data.shape.codes := by
  obtain ⟨layer, shape⟩ := data
  cases shape <;>
    simp [EntityData.slots, Shape.slots, Shape.codes, Shape.numberCodes, Shape.textCodes]

section Overwritten

variable {data changed other : EntityData} {entries entries' : List (Int × Value)}

theorem Overwritten.slot? (h : Overwritten data entries changed) (code : Int) :
    changed.slot? code = (data.slot? code).map (written entries code) := by
  rw [EntityData.slot?, h.slots, lookup_writtenAll]
  rfl

/-- Only what the fields keep of the values given to their codes counts. -/
theorem Overwritten.eq_of_kept (h : Overwritten data entries changed)
    (hother : Overwritten data entries' other)
    (hkept : ∀ code ∈ data.shape.codes,
      (given code entries').map (kept code) = (given code entries).map (kept code)) :
    other = changed := by
  have hcoordinates : ∀ code, (code = 10 ∨ code = 20) →
      coordinates data.shape code entries' = coordinates data.shape code entries := by
    intro code hcode
    have hall : kept code = id := by
      rcases hcode with rfl | rfl <;> rfl
    unfold coordinates
    split
    · rename_i hshape
      have hgiven := hkept code (by
        rw [hshape]
        rcases hcode with rfl | rfl <;> simp [Shape.codes, Shape.numberCodes])
      rw [hall, List.map_id, List.map_id] at hgiven
      rw [hgiven]
    · rfl
  refine EntityData.ext_slots (hother.typeName.trans h.typeName.symm) ?_ ?_
  · rw [h.slots, hother.slots]
    refine List.map_congr_left fun slot hslot => ?_
    rw [written, written, ← List.getLast?_map, ← List.getLast?_map,
      hkept _ (codes_slots data slot hslot)]
  · rw [h.vertices, hother.vertices, hcoordinates 10 (.inl rfl), hcoordinates 20 (.inr rfl)]

/-- What is written a second time is there already. -/
theorem Overwritten.again (h : Overwritten data entries changed)
    (hagain : Overwritten changed entries other) : other = changed := by
  refine EntityData.ext_slots hagain.typeName ?_ ?_
  · rw [hagain.slots, h.slots]
    simp only [writtenAll, List.map_map, Function.comp_def, written_written]
  · rw [hagain.vertices, coordinates_of_typeName h.typeName, coordinates_of_typeName h.typeName,
      h.vertices]
    split <;> rfl

end Overwritten

section Overwriting

variable {list : Value} {data : EntityData} {entries : List (Int × Value)}

theorem overwriting_of_admits (hentries : pairs list = .ok entries)
    (h : ∀ entry ∈ entries, data.shape.Admits entry) :
    ∃ changed, overwriting list data = (changed, none) ∧ Overwritten data entries changed := by
  have h : ∀ entry ∈ entries, (Draft.begin data).data.shape.Admits entry := h
  obtain ⟨next, hall, htook⟩ := Draft.putAll_of_admits h
  refine ⟨next.finish, ?_, htook.finish⟩
  simp only [overwriting, hentries, hall]

theorem overwriting_of_not_admits (hentries : pairs list = .ok entries)
    (h : ∃ entry ∈ entries, ¬data.shape.Admits entry) :
    ∃ reached fault, overwriting list data = (reached, some (.type fault)) := by
  have h : ∃ entry ∈ entries, ¬(Draft.begin data).data.shape.Admits entry := h
  obtain ⟨next, fault, hall⟩ := Draft.putAll_of_not_admits h
  exact ⟨next.data, fault, by simp only [overwriting, hentries, hall]⟩

theorem admits_of_given {shape : Shape} {entries' : List (Int × Value)}
    (h : ∀ entry ∈ entries, shape.Admits entry)
    (hgiven : ∀ code ∈ shape.codes, given code entries' = given code entries) :
    ∀ entry ∈ entries', shape.Admits entry := by
  intro entry hentry
  have hsame : entry.1 ∈ shape.codes → entry ∈ entries := fun hcode => by
    have hmem : entry.2 ∈ given entry.1 entries' := mem_given.mpr hentry
    rwa [hgiven _ hcode, mem_given] at hmem
  exact ⟨fun hcode => (h entry (hsame (List.mem_append_left _ hcode))).number hcode,
    fun hcode => (h entry (hsame (List.mem_append_right _ hcode))).text hcode⟩

theorem exists_eq_map_number {values : List Value} (h : ∀ value ∈ values, ∃ x, value = .number x) :
    ∃ xs : List Float, values = xs.map .number := by
  induction values with
  | nil => exact ⟨[], rfl⟩
  | cons value rest ih =>
      rw [List.forall_mem_cons] at h
      obtain ⟨x, rfl⟩ := h.1
      obtain ⟨xs, rfl⟩ := ih h.2
      exact ⟨x :: xs, rfl⟩

theorem given_eq_map_number {shape : Shape} {code : Int}
    (h : ∀ entry ∈ entries, shape.Admits entry) (hcode : code ∈ shape.numberCodes) :
    ∃ xs : List Float, given code entries = xs.map .number :=
  exists_eq_map_number fun value hvalue => (h (code, value) (mem_given.mp hvalue)).number hcode

end Overwriting

/-- A well-formed entry has two elements, the first a whole number. -/
theorem pair?_eq_some_iff {item value : Value} {code : Int} :
    pair? item = some (code, value) ↔
      ∃ x, item = .list [.number x, value] ∧ Numeric.isWhole x ∧ Numeric.toInt32 x = code := by
  constructor
  · intro h
    unfold pair? at h
    split at h
    · rename_i x found
      split at h
      · rename_i hwhole
        cases h
        exact ⟨x, rfl, hwhole, rfl⟩
      · cases h
    · cases h
  · rintro ⟨x, rfl, hwhole, rfl⟩
    rw [pair?, if_pos hwhole]

/-- Overwriting fails with a type error if there is no list, or if the list gives a field a value of
the wrong type. If not, it keeps the type; each field has the last value that was given to its code,
or its old value; the vertices are new ones, one for each x, if any x was given. Every other list
that gives the same values to each code that names a field does the same, and doing it again changes
nothing. -/
theorem overwriting_by_fields (list : Value) (data : EntityData) :
    (list.items? = none → ∃ fault, overwriting list data = (data, some (.type fault))) ∧
      ∀ items, list.items? = some items → ∀ entries, items.filterMap pair? = entries →
        ((∃ entry ∈ entries, ¬data.shape.Admits entry) →
          ∃ reached fault, overwriting list data = (reached, some (.type fault))) ∧
        ((∀ entry ∈ entries, data.shape.Admits entry) →
          ∃ changed, overwriting list data = (changed, none) ∧
            changed.shape.typeName = data.shape.typeName ∧
            (∀ code, changed.slot? code = (data.slot? code).map (written entries code)) ∧
            (∀ vertices closed, data.shape = .polyline vertices closed →
              ∃ xs ys, given 10 entries = xs.map .number ∧ given 20 entries = ys.map .number ∧
                (xs = [] → changed.shape.vertices = vertices) ∧
                (xs ≠ [] → changed.shape.vertices = Draft.vertices xs ys ∧
                  changed.shape.vertices.length = xs.length)) ∧
            (∀ other entries', pairs other = .ok entries' →
              (∀ code ∈ data.shape.codes, given code entries' = given code entries) →
              overwriting other data = (changed, none)) ∧
            overwriting list changed = (changed, none)) := by
  refine ⟨fun hlist => ⟨_, by rw [overwriting, pairs, hlist]⟩, ?_⟩
  intro items hitems entries hitemsEntries
  have hentries : pairs list = .ok entries := by rw [pairs, hitems, ← hitemsEntries]
  refine ⟨overwriting_of_not_admits hentries, fun hadmits => ?_⟩
  obtain ⟨changed, hchanged, hover⟩ := overwriting_of_admits hentries hadmits
  refine ⟨changed, hchanged, hover.typeName, hover.slot?, ?_, ?_, ?_⟩
  · intro vertices closed hshape
    have hcodes : 10 ∈ data.shape.numberCodes ∧ 20 ∈ data.shape.numberCodes := by
      simp [hshape, Shape.numberCodes]
    obtain ⟨xs, hxs⟩ := given_eq_map_number hadmits hcodes.1
    obtain ⟨ys, hys⟩ := given_eq_map_number hadmits hcodes.2
    have hvertices := hover.vertices
    rw [hshape, coordinates_of_given hxs, coordinates_of_given hys] at hvertices
    refine ⟨xs, ys, hxs, hys, fun hnone => ?_, fun hsome => ?_⟩
    · rw [hvertices, if_pos hnone]
      rfl
    · rw [hvertices, if_neg hsome]
      exact ⟨rfl, Draft.length_vertices xs ys⟩
  · intro other entries' hother hgiven
    obtain ⟨result, hresult, hsame⟩ :=
      overwriting_of_admits hother (admits_of_given hadmits hgiven)
    have hkept : ∀ code ∈ data.shape.codes,
        (given code entries').map (kept code) = (given code entries).map (kept code) :=
      fun code hcode => congrArg _ (hgiven code hcode)
    rw [hresult, hover.eq_of_kept hsame hkept]
  · have hagain : ∀ entry ∈ entries, changed.shape.Admits entry :=
      fun entry hentry => (hadmits entry hentry).of_typeName hover.typeName
    obtain ⟨result, hresult, hsame⟩ := overwriting_of_admits hentries hagain
    rw [hresult, hover.again hsame]

/-- An open polyline, and fields for it: two layers, flags, two vertices with their x first, and a
type that it does not take. -/
def strip : EntityData := ⟨"0", .polyline [⟨7, 7⟩] false⟩

def stripFields : List (Int × Value) :=
  [(8, .string "A"), (10, .number 1), (70, .number 3), (0, .string "LINE"), (10, .number 2),
    (20, .number 5), (20, .number 6), (8, .string "B")]

def misfitFields : List (Int × Value) := [(8, .string "A"), (70, .string "closed")]

theorem overwriting_by_fields_strip :
    (∃ fault, overwriting .truth strip = (strip, some (.type fault))) ∧
      ((∃ entry ∈ misfitFields, ¬strip.shape.Admits entry) ∧
        ∃ reached fault,
          overwriting (.list (misfitFields.map entryOf)) strip = (reached, some (.type fault))) ∧
      (∀ entry ∈ stripFields, strip.shape.Admits entry) ∧
      ∃ changed, overwriting (.list (stripFields.map entryOf)) strip = (changed, none) ∧
        changed.slot? 8 = some (.string "B") ∧ changed.slot? 70 = some (.number 1) ∧
        changed.shape.vertices = [⟨1, 5⟩, ⟨2, 6⟩] ∧
        overwriting (.list (stripFields.map entryOf)) changed = (changed, none) := by
  have hmisfit : ∃ entry ∈ misfitFields, ¬strip.shape.Admits entry :=
    ⟨(70, .string "closed"), by simp [misfitFields],
      fun h => by simpa using h.number (by simp [strip, Shape.numberCodes])⟩
  have hfit : ∀ entry ∈ stripFields, strip.shape.Admits entry := by
    simp only [stripFields, List.forall_mem_cons]
    simp [strip, Shape.numberCodes, Shape.textCodes, Shape.admits_iff]
  have hused : (∀ field ∈ misfitFields, field.1 ∈ usedCodes) ∧
      ∀ field ∈ stripFields, field.1 ∈ usedCodes := by
    simp [misfitFields, stripFields, usedCodes]
  refine ⟨(overwriting_by_fields .truth strip).1 rfl, ⟨hmisfit, ?_⟩, hfit, ?_⟩
  · exact ((overwriting_by_fields (.list (misfitFields.map entryOf)) strip).2 _ rfl _
      (filterMap_pair?_entryOf hused.1)).1 hmisfit
  · obtain ⟨changed, hchanged, -, hslots, hvertices, -, hagain⟩ :=
      ((overwriting_by_fields (.list (stripFields.map entryOf)) strip).2 _ rfl _
        (filterMap_pair?_entryOf hused.2)).2 hfit
    have hbit : Draft.lowBit 3 = true := by decide +kernel
    refine ⟨changed, hchanged, hslots 8, (hslots 70).trans ?_, ?_, hagain⟩
    · change some (Value.number (if Draft.lowBit 3 then 1 else 0)) = _
      rw [hbit]
      rfl
    · obtain ⟨xs, ys, hxs, hys, -, hnew⟩ := hvertices _ _ rfl
      have hnumber : ∀ x y, Value.number x = .number y → x = y := fun _ _ => Value.number.inj
      obtain rfl : [1, 2] = xs := (List.map_inj_right hnumber).mp hxs
      obtain rfl : [5, 6] = ys := (List.map_inj_right hnumber).mp hys
      exact (hnew (by simp)).1

end Groups

end DraftLisp

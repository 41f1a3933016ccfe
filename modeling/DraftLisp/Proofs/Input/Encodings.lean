import DraftLisp.Input.Answer
import Mathlib.Data.List.Forall2

namespace DraftLisp

theorem mapM_eq_some_iff {f : α → Option β} {items : List α} {results : List β} :
    items.mapM f = some results ↔
      List.Forall₂ (fun item result => f item = some result) items results := by
  induction items generalizing results with
  | nil => cases results <;> simp
  | cons item items ih =>
      simp only [List.mapM_cons, Option.bind_eq_bind, Option.pure_def, Option.bind_eq_some_iff,
        Option.some.injEq, ih]
      constructor
      · rintro ⟨result, hresult, rest, hrest, rfl⟩
        exact .cons hresult hrest
      · rintro (_ | ⟨hresult, hrest⟩)
        exact ⟨_, hresult, _, hrest, rfl⟩

namespace Answer

open Numeric

inductive EncodesNumber : Json → Float → Prop
  | integer (value : Int) : EncodesNumber (.integer value) (ofInt value)
  | float (x : Float) : EncodesNumber (.float x) x
  | string {text : String} {x : Float} : readFinite? (Text.trim text.toList) = some x →
      EncodesNumber (.string text) x

inductive EncodesHeight : Option Json → Float → Prop
  | absent : EncodesHeight none 0.0
  | given {json : Json} {z : Float} : EncodesNumber json z → EncodesHeight (some json) z

/-- The value of a place, of which each number is given but perhaps the height. -/
inductive EncodesPlace : Json → Value → Prop
  | members {members : List (String × Json)} {first second : Json} {x y z : Float} :
      members.lookup "x" = some first → members.lookup "y" = some second →
      EncodesNumber first x → EncodesNumber second y → EncodesHeight (members.lookup "z") z →
      EncodesPlace (.object members) (pointValue x y z)
  | two {first second : Json} {x y : Float} : EncodesNumber first x → EncodesNumber second y →
      EncodesPlace (.array [first, second]) (pointValue x y 0.0)
  | three {first second third : Json} {x y z : Float} : EncodesNumber first x →
      EncodesNumber second y → EncodesNumber third z →
      EncodesPlace (.array [first, second, third]) (pointValue x y z)

inductive EncodesText : Json → String → Prop
  | string (text : String) : EncodesText (.string text) text
  | integer (value : Int) : EncodesText (.integer value) (intText value)
  | float (x : Float) : EncodesText (.float x) (String.ofList (Json.floatChars x))

/-- The identifier of an entity as JSON. -/
def identifier (id : EntityId) : Json := .integer id

inductive EncodesPick : Json → Value → Prop
  | members {members : List (String × Json)} {id : EntityId} {json : Json} {place : Value} :
      members.lookup "entity" = some (identifier id) → members.lookup "point" = some json →
      EncodesPlace json place → EncodesPick (.object members) (.list [.entity id, place])
  | two {id : EntityId} {json : Json} {place : Value} : EncodesPlace json place →
      EncodesPick (.array [identifier id, json]) (.list [.entity id, place])

inductive Encodes : InputKind → Json → Value → Prop
  | null (kind : InputKind) : Encodes kind .null .nil
  | point {raw : Json} {place : Value} : EncodesPlace raw place → Encodes .point raw place
  | corner {raw : Json} {place : Value} : EncodesPlace raw place → Encodes .corner raw place
  | dist {raw : Json} {x : Float} : EncodesNumber raw x → Encodes .dist raw (.number x)
  | real {raw : Json} {x : Float} : EncodesNumber raw x → Encodes .real raw (.number x)
  | angle {raw : Json} {degrees : Float} : EncodesNumber raw degrees →
      Encodes .angle raw (.number (Geometry.radians degrees))
  | int {raw : Json} {x : Float} : EncodesNumber raw x → Encodes .int raw (.number (trunc x))
  | string {raw : Json} {text : String} : EncodesText raw text → Encodes .string raw (.string text)
  | keyword {raw : Json} {text : String} : EncodesText raw text →
      Encodes .keyword raw (.string text)
  | entsel {raw : Json} {pick : Value} : EncodesPick raw pick → Encodes .entsel raw pick
  | nothing : Encodes .ssget (.array []) .nil
  | ssget {ids : List EntityId} : ids ≠ [] →
      Encodes .ssget (.array (ids.map identifier)) (.selection ids)

section Readers

variable {json : Json}

theorem number?_eq_some_iff {x : Float} : number? json = some x ↔ EncodesNumber json x := by
  constructor
  · intro h
    cases json with
    | integer value =>
        cases h
        exact .integer value
    | float x =>
        cases h
        exact .float x
    | string text => exact .string h
    | _ => cases h
  · intro h
    cases h with
    | integer value => rfl
    | float x => rfl
    | string hread => exact hread

theorem height?_eq_some_iff {json : Option Json} {z : Float} :
    height? json = some z ↔ EncodesHeight json z := by
  constructor
  · intro h
    cases json with
    | none =>
        cases h
        exact .absent
    | some json => exact .given (number?_eq_some_iff.mp h)
  · intro h
    cases h with
    | absent => rfl
    | given hz => exact number?_eq_some_iff.mpr hz

theorem point?_eq_some_iff {place : Value} :
    point? json = some place ↔ EncodesPlace json place := by
  constructor
  · intro h
    unfold point? at h
    simp only [Option.bind_eq_bind, Option.pure_def] at h
    split at h
    · simp only [Option.bind_eq_some_iff, Option.some.injEq] at h
      obtain ⟨first, hfirst, x, hx, second, hsecond, y, hy, z, hz, rfl⟩ := h
      exact .members hfirst hsecond (number?_eq_some_iff.mp hx) (number?_eq_some_iff.mp hy)
        (height?_eq_some_iff.mp hz)
    · simp only [Option.bind_eq_some_iff, Option.some.injEq] at h
      obtain ⟨x, hx, y, hy, rfl⟩ := h
      exact .two (number?_eq_some_iff.mp hx) (number?_eq_some_iff.mp hy)
    · simp only [Option.bind_eq_some_iff, Option.some.injEq] at h
      obtain ⟨x, hx, y, hy, z, hz, rfl⟩ := h
      exact .three (number?_eq_some_iff.mp hx) (number?_eq_some_iff.mp hy)
        (number?_eq_some_iff.mp hz)
    · cases h
  · intro h
    cases h with
    | members hfirst hsecond hx hy hz =>
        simp [point?, hfirst, hsecond, number?_eq_some_iff.mpr hx, number?_eq_some_iff.mpr hy,
          height?_eq_some_iff.mpr hz]
    | two hx hy => simp [point?, number?_eq_some_iff.mpr hx, number?_eq_some_iff.mpr hy]
    | three hx hy hz =>
        simp [point?, number?_eq_some_iff.mpr hx, number?_eq_some_iff.mpr hy,
          number?_eq_some_iff.mpr hz]

theorem text?_eq_some_iff {text : String} : text? json = some text ↔ EncodesText json text := by
  constructor
  · intro h
    cases json with
    | string text =>
        cases h
        exact .string text
    | integer value =>
        cases h
        exact .integer value
    | float x =>
        cases h
        exact .float x
    | _ => cases h
  · intro h
    cases h <;> rfl

theorem entity?_eq_some_iff {id : EntityId} : entity? json = some id ↔ json = identifier id := by
  constructor
  · intro h
    cases json with
    | integer value =>
        obtain ⟨hvalue, hid⟩ := Option.ite_none_right_eq_some.mp h
        obtain rfl := Option.some.inj hid
        rw [identifier, Int.toNat_of_nonneg hvalue]
    | _ => cases h
  · rintro rfl
    simp [identifier, entity?]

theorem pick?_eq_some_iff {pick : Value} : pick? json = some pick ↔ EncodesPick json pick := by
  constructor
  · intro h
    unfold pick? at h
    simp only [Option.bind_eq_bind, Option.pure_def] at h
    split at h
    · simp only [Option.bind_eq_some_iff, Option.some.injEq] at h
      obtain ⟨first, hfirst, second, hsecond, id, hid, place, hplace, rfl⟩ := h
      obtain rfl := entity?_eq_some_iff.mp hid
      exact .members hfirst hsecond (point?_eq_some_iff.mp hplace)
    · simp only [Option.bind_eq_some_iff, Option.some.injEq] at h
      obtain ⟨id, hid, place, hplace, rfl⟩ := h
      obtain rfl := entity?_eq_some_iff.mp hid
      exact .two (point?_eq_some_iff.mp hplace)
    · cases h
  · intro h
    cases h with
    | members hid hjson hplace =>
        simp [pick?, hid, hjson, entity?_eq_some_iff.mpr rfl, point?_eq_some_iff.mpr hplace]
    | two hplace => simp [pick?, entity?_eq_some_iff.mpr rfl, point?_eq_some_iff.mpr hplace]

theorem mapM_entity?_eq_some_iff {items : List Json} {ids : List EntityId} :
    items.mapM entity? = some ids ↔ items = ids.map identifier := by
  rw [mapM_eq_some_iff]
  simp only [entity?_eq_some_iff]
  rw [← List.forall₂_map_right_iff, List.forall₂_eq_eq_eq]

theorem entities?_eq_some_iff {ids : List EntityId} :
    entities? json = some ids ↔ json = .array (ids.map identifier) := by
  cases json with
  | array items => simpa [entities?] using mapM_entity?_eq_some_iff
  | _ => simp [entities?]

theorem Encodes.eq_nil {kind : InputKind} {value : Value} (h : Encodes kind .null value) :
    value = .nil := by
  cases h with
  | null => rfl
  | point h | corner h | dist h | real h | angle h | int h | string h | keyword h | entsel h =>
      cases h

theorem value?_eq_some_iff {kind : InputKind} {value : Value} :
    value? kind json = some value ↔ Encodes kind json value := by
  constructor
  · intro h
    unfold value? at h
    split at h
    · cases h
      exact .null kind
    · cases kind with
      | point => exact .point (point?_eq_some_iff.mp h)
      | corner => exact .corner (point?_eq_some_iff.mp h)
      | dist =>
          obtain ⟨x, hx, rfl⟩ := Option.map_eq_some_iff.mp h
          exact .dist (number?_eq_some_iff.mp hx)
      | real =>
          obtain ⟨x, hx, rfl⟩ := Option.map_eq_some_iff.mp h
          exact .real (number?_eq_some_iff.mp hx)
      | angle =>
          obtain ⟨degrees, hdegrees, rfl⟩ := Option.map_eq_some_iff.mp h
          exact .angle (number?_eq_some_iff.mp hdegrees)
      | int =>
          obtain ⟨x, hx, rfl⟩ := Option.map_eq_some_iff.mp h
          exact .int (number?_eq_some_iff.mp hx)
      | string =>
          obtain ⟨text, htext, rfl⟩ := Option.map_eq_some_iff.mp h
          exact .string (text?_eq_some_iff.mp htext)
      | keyword =>
          obtain ⟨text, htext, rfl⟩ := Option.map_eq_some_iff.mp h
          exact .keyword (text?_eq_some_iff.mp htext)
      | entsel => exact .entsel (pick?_eq_some_iff.mp h)
      | ssget =>
          obtain ⟨ids, hids, rfl⟩ := Option.map_eq_some_iff.mp h
          obtain rfl := entities?_eq_some_iff.mp hids
          cases ids with
          | nil => exact .nothing
          | cons id rest => exact .ssget (List.cons_ne_nil id rest)
  · intro h
    unfold value?
    split
    · rw [h.eq_nil]
    · rename_i hnull
      cases h with
      | null => exact absurd rfl hnull
      | point hplace | corner hplace => exact point?_eq_some_iff.mpr hplace
      | dist hx | real hx | angle hx | int hx =>
          exact Option.map_eq_some_iff.mpr ⟨_, number?_eq_some_iff.mpr hx, rfl⟩
      | string htext | keyword htext =>
          exact Option.map_eq_some_iff.mpr ⟨_, text?_eq_some_iff.mpr htext, rfl⟩
      | entsel hpick => exact pick?_eq_some_iff.mpr hpick
      | nothing => rfl
      | ssget hids =>
          refine Option.map_eq_some_iff.mpr ⟨_, entities?_eq_some_iff.mpr rfl, if_neg ?_⟩
          simpa using hids

end Readers

end Answer

end DraftLisp

import DraftLisp.Builtin.Registry
import DraftLisp.Evaluation.SpecialForm

namespace DraftLisp

namespace Builtin

/-- The operators that ask, and what they ask for. -/
def asked : List (String × InputKind) :=
  [("GETPOINT", .point), ("GETCORNER", .corner), ("GETDIST", .dist), ("GETANGLE", .angle),
   ("GETREAL", .real), ("GETINT", .int), ("GETSTRING", .string), ("GETKWORD", .keyword),
   ("ENTSEL", .entsel), ("SSGET", .ssget)]

namespace Asking

/-- The last text among operands, the empty one if there is none. -/
def promptOf (operands : List Value) : String :=
  (operands.filterMap Value.string?).getLast?.getD ""

/-- The last place among operands. -/
def baseOf (operands : List Value) : Option Point :=
  (operands.filterMap Value.point?).getLast?

/-- Every operand is a text, a place or nil. -/
def Understood (operands : List Value) : Prop :=
  ∀ value ∈ operands, value = .nil ∨ value.string?.isSome ∨ value.point?.isSome

/-- What the user is asked by a call with these operands, for each kind of input. -/
inductive Demanded (operands : List Value) : Request → Prop
  | plain {kind : InputKind} : kind ∉ [.corner, .string, .ssget] → Understood operands →
    Demanded operands ⟨kind, promptOf operands, baseOf operands⟩
  /-- The first operand must be the base point. -/
  | corner {base : Value} {rest : List Value} : operands = base :: rest → base.point?.isSome →
    Understood operands → Demanded operands ⟨.corner, promptOf operands, baseOf operands⟩
  /-- Operands other than texts are left alone. -/
  | string : Demanded operands ⟨.string, promptOf operands, none⟩
  /-- A text in the first place is a mode, in which the user is not asked. -/
  | ssget : (∀ mode rest, operands ≠ .string mode :: rest) →
    Demanded operands ⟨.ssget, "Select objects: ", none⟩

theorem understood_cons {value : Value} {rest : List Value} :
    Understood (value :: rest) ↔
      (value = .nil ∨ value.string?.isSome ∨ value.point?.isSome) ∧ Understood rest :=
  List.forall_mem_cons

theorem getLast?_filterMap_cons (read : Value → Option α) (value : Value) (rest : List Value) :
    ((value :: rest).filterMap read).getLast? =
      (rest.filterMap read).getLast?.or (read value) := by
  cases hread : read value with
  | none => simp [hread]
  | some found =>
      rw [List.filterMap_cons_some hread, List.getLast?_cons]
      cases (rest.filterMap read).getLast? <;> rfl

/-- The last text is the prompt and the last place the base point; where there is none, what was
found before counts. -/
theorem promptAndBase_eq_ok_iff {operands : List Value} {found result : String × Option Point} :
    promptAndBase operands found = .ok result ↔ Understood operands ∧
      result = ((operands.filterMap Value.string?).getLast?.getD found.1,
        (operands.filterMap Value.point?).getLast?.or found.2) := by
  fun_induction promptAndBase operands found with
  | case1 found => simpa [Understood] using eq_comm
  | case2 text rest prompt base ih =>
      rw [ih, understood_cons, getLast?_filterMap_cons, getLast?_filterMap_cons]
      simp [Value.string?, Value.point?]
  | case3 rest found ih =>
      rw [ih, understood_cons, getLast?_filterMap_cons, getLast?_filterMap_cons]
      simp [Value.string?, Value.point?]
  | case4 value rest prompt base htext hnil ih =>
      have hread : value.string? = none := by
        cases value with
        | string text => exact absurd rfl (htext text)
        | _ => rfl
      rw [understood_cons, getLast?_filterMap_cons, getLast?_filterMap_cons, hread]
      cases hplace : value.point? with
      | none =>
          refine iff_of_false ?_ ?_
          · simp [Value.expectPoint, hplace, Value.orExpected, bind, Except.bind]
          · rintro ⟨⟨hvalue, -⟩, -⟩
            exact hvalue.elim hnil (by simp)
      | some place =>
          have hbind : (do promptAndBase rest (prompt, some (← value.expectPoint))) =
              promptAndBase rest (prompt, some place) := by
            rw [Value.expectPoint, hplace]
            rfl
          rw [hbind, ih place]
          simp

theorem requestFor_eq_asked_iff {kind : InputKind} {operands : List Value} {drawing : Drawing}
    {request : Request} :
    requestFor kind operands drawing = .ok (.asked request) ↔
      Understood operands ∧ request = ⟨kind, promptOf operands, baseOf operands⟩ := by
  have hfound := @promptAndBase_eq_ok_iff operands ("", none)
  unfold requestFor
  cases hread : promptAndBase operands ("", none) with
  | error error =>
      refine iff_of_false nofun ?_
      rintro ⟨hunderstood, -⟩
      have hok := hfound.mpr ⟨hunderstood, rfl⟩
      rw [hread] at hok
      cases hok
  | ok found =>
      obtain ⟨hunderstood, rfl⟩ := hfound.mp hread
      constructor
      · rintro ⟨⟩
        refine ⟨hunderstood, ?_⟩
        rw [Option.or_none]
        rfl
      · rintro ⟨-, rfl⟩
        unfold baseOf promptOf
        rw [Option.or_none]
        rfl

theorem requestFor_iff_demanded {kind : InputKind} (hkind : kind ∉ [.corner, .string, .ssget])
    {operands : List Value} {drawing : Drawing} {request : Request} :
    requestFor kind operands drawing = .ok (.asked request) ↔
      request.kind = kind ∧ Demanded operands request := by
  rw [requestFor_eq_asked_iff]
  constructor
  · rintro ⟨hunderstood, rfl⟩
    exact ⟨rfl, .plain hkind hunderstood⟩
  · rintro ⟨rfl, hdemanded⟩
    cases hdemanded with
    | plain _ hunderstood => exact ⟨hunderstood, rfl⟩
    | corner | string | ssget => simp at hkind

theorem requestCorner_iff_demanded {operands : List Value} {drawing : Drawing}
    {request : Request} :
    requestCorner operands drawing = .ok (.asked request) ↔
      request.kind = .corner ∧ Demanded operands request := by
  have hcorner : requestCorner operands drawing = .ok (.asked request) ↔
      (∃ base rest, operands = base :: rest ∧ base.point?.isSome) ∧
        requestFor .corner operands drawing = .ok (.asked request) := by
    rcases operands with _ | ⟨base, rest⟩
    · exact iff_of_false nofun (by simp)
    · rw [requestCorner, Value.expectPoint]
      cases hplace : base.point? with
      | none =>
          refine iff_of_false nofun ?_
          rintro ⟨⟨_, _, ⟨⟩, hsome⟩, -⟩
          simp [hplace] at hsome
      | some place =>
          exact ⟨fun h => ⟨⟨base, rest, rfl, by simp [hplace]⟩, h⟩, fun h => h.2⟩
  rw [hcorner, requestFor_eq_asked_iff]
  constructor
  · rintro ⟨⟨base, rest, hoperands, hplace⟩, hunderstood, rfl⟩
    exact ⟨rfl, .corner hoperands hplace hunderstood⟩
  · rintro ⟨hkind, hdemanded⟩
    cases hdemanded with
    | plain hplain _ => exact absurd hkind (by rintro rfl; simp at hplain)
    | corner hoperands hplace hunderstood =>
        exact ⟨⟨_, _, hoperands, hplace⟩, hunderstood, rfl⟩
    | string | ssget => cases hkind

theorem requestString_iff_demanded {operands : List Value} {drawing : Drawing}
    {request : Request} :
    requestString operands drawing = .ok (.asked request) ↔
      request.kind = .string ∧ Demanded operands request := by
  have htexts : ∀ value ∈ operands.filter (·.string?.isSome), value.string?.isSome :=
    fun value hvalue => (List.mem_filter.mp hvalue).2
  have hprompt : promptOf (operands.filter (·.string?.isSome)) = promptOf operands := by
    unfold promptOf
    rw [List.filterMap_filter]
    congr 3
    funext value
    cases value <;> rfl
  have hbase : baseOf (operands.filter (·.string?.isSome)) = none := by
    have hplaces : (operands.filter (·.string?.isSome)).filterMap Value.point? = [] := by
      rw [List.filterMap_eq_nil_iff]
      intro value hvalue
      have htext := htexts value hvalue
      cases value <;> first | rfl | cases htext
    rw [baseOf, hplaces]
    rfl
  rw [requestString, requestFor_eq_asked_iff, hprompt, hbase]
  constructor
  · rintro ⟨-, rfl⟩
    exact ⟨rfl, .string⟩
  · rintro ⟨hkind, hdemanded⟩
    cases hdemanded with
    | plain hplain _ => exact absurd hkind (by rintro rfl; simp at hplain)
    | string => exact ⟨fun value hvalue => .inr (.inl (htexts value hvalue)), rfl⟩
    | corner | ssget => cases hkind

theorem selectEntities_iff_demanded {operands : List Value} {drawing : Drawing}
    {request : Request} :
    selectEntities operands drawing = .ok (.asked request) ↔
      request.kind = .ssget ∧ Demanded operands request := by
  have hselect : selectEntities operands drawing = .ok (.asked request) ↔
      (∀ mode rest, operands ≠ .string mode :: rest) ∧
        request = ⟨.ssget, "Select objects: ", none⟩ := by
    unfold selectEntities
    split
    · rename_i mode rest
      refine iff_of_false ?_ fun h => h.1 mode rest rfl
      split
      · cases selectAll rest.head? drawing <;> nofun
      · nofun
    · rename_i hmode
      constructor
      · rintro ⟨⟩
        exact ⟨hmode, rfl⟩
      · rintro ⟨-, rfl⟩
        rfl
  rw [hselect]
  constructor
  · rintro ⟨hmode, rfl⟩
    exact ⟨rfl, .ssget hmode⟩
  · rintro ⟨hkind, hdemanded⟩
    cases hdemanded with
    | plain hplain _ => exact absurd hkind (by rintro rfl; simp at hplain)
    | ssget hmode => exact ⟨hmode, rfl⟩
    | corner | string => cases hkind

end Asking

open Asking

/-- A call of the operator with these operands asks the user this. -/
def Demands (operator : Builtin) (operands : List Value) (request : Request) : Prop :=
  (operator.name, request.kind) ∈ asked ∧ Demanded operands request

/-- The operator asks for what its name and its operands demand, and for nothing else. -/
def Demanding (operator : Builtin) : Prop :=
  ∀ ask, operator.action = .input ask → ∀ operands drawing request,
    ask operands drawing = .ok (.asked request) ↔ operator.Demands operands request

theorem demanding_input {name : String} {arity : Arity} {kind : InputKind}
    {ask : List Value → Drawing → Except Error Demand}
    (hasked : ∀ other, (name, other) ∈ asked ↔ other = kind)
    (h : ∀ {operands : List Value} {drawing : Drawing} {request : Request},
      ask operands drawing = .ok (.asked request) ↔
        request.kind = kind ∧ Demanded operands request) :
    Demanding ⟨name, arity, .input ask⟩ := by
  rintro _ ⟨⟩ operands drawing request
  rw [h, Demands, hasked]

theorem demanding_asking : ∀ operator ∈ asking, operator.Demanding := by
  simp only [asking, List.forall_mem_cons]
  refine ⟨demanding_input (by simp [asked]) (requestFor_iff_demanded (by simp)),
    demanding_input (by simp [asked]) requestCorner_iff_demanded,
    demanding_input (by simp [asked]) (requestFor_iff_demanded (by simp)),
    demanding_input (by simp [asked]) (requestFor_iff_demanded (by simp)),
    demanding_input (by simp [asked]) (requestFor_iff_demanded (by simp)),
    demanding_input (by simp [asked]) (requestFor_iff_demanded (by simp)),
    demanding_input (by simp [asked]) requestString_iff_demanded,
    demanding_input (by simp [asked]) (requestFor_iff_demanded (by simp)),
    demanding_input (by simp [asked]) (requestFor_iff_demanded (by simp)),
    demanding_input (by simp [asked]) selectEntities_iff_demanded, by simp⟩

def asks (operator : Builtin) : Bool :=
  match operator.action with
  | .input _ => true
  | _ => false

theorem filter_asks_all : all.filter asks = asking := rfl

theorem mem_asking {operator : Builtin} {ask : List Value → Drawing → Except Error Demand}
    (hmem : operator ∈ all) (haction : operator.action = .input ask) : operator ∈ asking := by
  rw [← filter_asks_all]
  exact List.mem_filter.mpr ⟨hmem, by simp [asks, haction]⟩

theorem kind_eq_of_asked {name : String} {kind other : InputKind} (h : (name, kind) ∈ asked)
    (hother : (name, other) ∈ asked) : kind = other := by
  have hfunctional :
      ∀ entry ∈ asked, ∀ second ∈ asked, entry.1 = second.1 → entry.2 = second.2 := by
    decide
  exact hfunctional _ h _ hother rfl

/-- Every name in the table is that of an operator that asks. -/
theorem find?_of_asked {name : String} {kind : InputKind} (h : (name, kind) ∈ asked) :
    ∃ operator ask, find? name = some operator ∧ operator.name = name ∧
      operator.action = .input ask := by
  simp only [asked, List.mem_cons, Prod.mk.injEq, List.not_mem_nil, or_false] at h
  rcases h with ⟨rfl, -⟩ | ⟨rfl, -⟩ | ⟨rfl, -⟩ | ⟨rfl, -⟩ | ⟨rfl, -⟩ | ⟨rfl, -⟩ | ⟨rfl, -⟩ |
    ⟨rfl, -⟩ | ⟨rfl, -⟩ | ⟨rfl, -⟩ <;> exact ⟨_, _, rfl, rfl, rfl⟩

theorem ofName?_of_asked {name : String} {kind : InputKind} (h : (name, kind) ∈ asked) :
    SpecialForm.ofName? name = none := by
  have hnames : ∀ entry ∈ asked, SpecialForm.ofName? entry.1 = none := by
    decide
  exact hnames _ h

end Builtin

end DraftLisp

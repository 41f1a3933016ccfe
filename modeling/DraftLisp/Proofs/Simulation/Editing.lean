import DraftLisp.Proofs.Simulation.Operators

namespace DraftLisp

open Builtin

namespace Simulation

variable {S : Simulation} {α β γ δ : Type} {R : α → β → Prop} {Q : γ → δ → Prop}

namespace Edits

theorem bind {first : Edit α} {second : Edit β} {next : α → Edit γ} {next' : β → Edit δ}
    (h : S.Edits R first second) (hnext : ∀ a b, R a b → S.Edits Q (next a) (next' b)) :
    S.Edits Q (first >>= next) (second >>= next') := by
  intro drawing
  obtain ⟨houtcome, hdrawing⟩ := h drawing
  rw [edit_bind_apply, edit_bind_apply]
  rcases hfirst : first drawing with ⟨outcome, changed⟩
  rcases hsecond : second drawing with ⟨outcome', changed'⟩
  rw [hfirst, hsecond] at houtcome hdrawing
  obtain rfl : changed = changed' := hdrawing
  cases houtcome with
  | ok h => exact hnext _ _ h changed
  | error h => exact ⟨.error h, rfl⟩

theorem refl (step : Edit α) : S.Edits Eq step step :=
  fun _ => ⟨.of_self fun _ _ => rfl, rfl⟩

theorem pure {a : α} {b : β} (h : R a b) : S.Edits R (pure a) (pure b) := fun _ => ⟨.ok h, rfl⟩

theorem throw_bind {error other : Error} (h : error.Lift S.values other) {next : γ → Edit α}
    {next' : δ → Edit β} : S.Edits R (throw error >>= next) (throw other >>= next') :=
  fun _ => ⟨.error h, rfl⟩

theorem throw {error other : Error} (h : error.Lift S.values other) :
    S.Edits R (throw error) (throw other) :=
  fun _ => ⟨.error h, rfl⟩

theorem lift {first : Except Error α} {second : Except Error β} (h : S.Outcomes R first second) :
    S.Edits R (Editing.lift first) (Editing.lift second) :=
  fun _ => ⟨h, rfl⟩

theorem operand {operands others : List Value} (h : List.Forall₂ S.values operands others)
    (index : Nat) :
    S.Edits S.values (Editing.operand operands index) (Editing.operand others index) := by
  have hrel := getElem?_rel h index
  unfold Editing.operand
  revert hrel
  generalize operands[index]? = found
  generalize others[index]? = found'
  rintro (hvalue | _)
  · exact lift (.ok hvalue)
  · exact lift (outcomes_miscounted h _)

/-- Reads an operand, and goes on with what was read. -/
theorem read {A : γ → γ → Prop} {reader : Reader γ} (hreader : S.Reads A reader)
    {operands others : List Value} (h : List.Forall₂ S.values operands others) (index : Nat)
    {next : γ → Edit α} {next' : γ → Edit β}
    (hnext : ∀ a b, A a b → S.Edits R (next a) (next' b)) :
    S.Edits R (do next (← Editing.lift (reader (← Editing.operand operands index))))
      (do next' (← Editing.lift (reader (← Editing.operand others index)))) :=
  (operand h index).bind fun _ _ h => (lift (hreader _ _ h)).bind hnext

end Edits

section Groups

variable (hS : S.Lawful)

include hS

theorem Lawful.reads_groupNumber (code : Int) : S.Reads Eq (Groups.number code) := by
  intro value other h
  cases hS.lift_iff.mp h with
  | number x => exact .ok rfl
  | _ => exact .error (.group code "number" h)

theorem Lawful.reads_groupText (code : Int) : S.Reads Eq (Groups.text code) := by
  intro value other h
  cases hS.lift_iff.mp h with
  | string text => exact .ok rfl
  | _ => exact .error (.group code "string" h)

/-- A code with corresponding values. -/
def Entries (S : Simulation) (entry other : Int × Value) : Prop :=
  entry.1 = other.1 ∧ S.values entry.2 other.2

theorem Lawful.pair?_rel {item other : Value} (h : S.values item other) :
    Option.Rel S.Entries (Groups.pair? item) (Groups.pair? other) := by
  cases hS.lift_iff.mp h with
  | list _ hitems =>
      rcases hitems with _ | ⟨hcode, _ | ⟨hvalue, _ | ⟨_, _⟩⟩⟩
      · exact .none
      · simp only [Groups.pair?]
        exact .none
      · cases hS.lift_iff.mp hcode with
        | number code =>
            simp only [Groups.pair?]
            split
            · exact .some ⟨rfl, hvalue⟩
            · exact .none
        | _ =>
            simp only [Groups.pair?]
            exact .none
      · simp only [Groups.pair?]
        exact .none
  | _ => exact .none

theorem Lawful.reads_pairs : S.Reads (List.Forall₂ S.Entries) Groups.pairs := by
  intro list other h
  unfold Groups.pairs
  rcases hS.items_cases h with ⟨hnone, hnone'⟩ | ⟨items, others, hitems, hothers, hrel⟩
  · rw [hnone, hnone']
    exact .error (.expected "association list" h)
  · rw [hitems, hothers]
    have hpair : ∀ item other, S.values item other →
        Option.Rel S.Entries (Groups.pair? item) (Groups.pair? other) := fun _ _ => hS.pair?_rel
    exact .ok (List.rel_filterMap hpair hrel)

theorem Lawful.outcomes_put (draft : Groups.Draft) (code : Int) {value other : Value}
    (h : S.values value other) :
    S.Outcomes Eq (draft.put code value) (draft.put code other) := by
  have hnumber := hS.reads_groupNumber code value other h
  have htext := hS.reads_groupText code value other h
  unfold Groups.Draft.put
  split
  · exact htext.bind (of_same fun _ => .ok rfl)
  · -- Every field is a number or a text of the entity, or nothing is read.
    split
    all_goals first
      | exact hnumber.bind (of_same fun _ => .ok rfl)
      | exact htext.bind (of_same fun _ => .ok rfl)
      | exact .ok rfl

/-- Drafts that are the same after the same entries, up to an error with the same cause. -/
inductive Drafts (S : Simulation) : α × Option Error → α × Option Error → Prop
  | done (draft : α) : Drafts S (draft, none) (draft, none)
  | error (draft : α) {error other : Error} : error.Lift S.values other →
      Drafts S (draft, some error) (draft, some other)

theorem Lawful.drafts_putAll {entries others : List (Int × Value)}
    (h : List.Forall₂ S.Entries entries others) (draft : Groups.Draft) :
    S.Drafts (draft.putAll entries) (draft.putAll others) := by
  induction h generalizing draft with
  | nil => exact .done draft
  | @cons entry entry' rest rest' hentry hrest ih =>
      obtain ⟨code, value⟩ := entry
      obtain ⟨code', other⟩ := entry'
      obtain ⟨rfl, hvalue⟩ : code = code' ∧ S.values value other := hentry
      rw [Groups.Draft.putAll, Groups.Draft.putAll]
      have hput := hS.outcomes_put draft code hvalue
      revert hput
      generalize draft.put code value = next
      generalize draft.put code other = next'
      rintro (⟨⟨⟩⟩ | h)
      · exact ih _
      · exact .error draft h

theorem Lawful.outcomes_overwrite {list other : Value} (h : S.values list other)
    (data : EntityData) :
    S.Outcomes Eq (Groups.overwrite list data) (Groups.overwrite other data) := by
  unfold Groups.overwrite Groups.overwriting
  have hpairs := hS.reads_pairs list other h
  revert hpairs
  generalize Groups.pairs list = entries
  generalize Groups.pairs other = entries'
  rintro (hentries | h)
  · have hdrafts := hS.drafts_putAll hentries (Groups.Draft.begin data)
    revert hdrafts
    simp only
    generalize Groups.Draft.putAll _ _ = result
    generalize Groups.Draft.putAll _ _ = result'
    rintro (_ | ⟨_, h⟩)
    · exact .ok rfl
    · exact .error h
  · exact .error h

omit hS in
theorem lookup_rel {entries others : List (Int × Value)} (h : List.Forall₂ S.Entries entries others)
    (code : Int) : Option.Rel S.values (entries.lookup code) (others.lookup code) := by
  induction h with
  | nil => exact .none
  | @cons entry other rest rest' hentry hrest ih =>
      rw [List.lookup_cons, List.lookup_cons, hentry.1]
      split
      · exact .some hentry.2
      · exact ih

theorem Lawful.outcomes_create {list other : Value} (h : S.values list other) (layer : String) :
    S.Outcomes Eq (Groups.create list layer) (Groups.create other layer) := by
  refine (hS.reads_pairs list other h).bind fun entries entries' hentries => ?_
  have hfound := lookup_rel hentries 0
  revert hfound
  generalize entries.lookup 0 = found
  generalize entries'.lookup 0 = found'
  rintro (hvalue | _)
  · refine (hS.reads_groupText 0 _ _ hvalue).bind (of_same fun name => ?_)
    simp only
    split
    · exact .error (.refl _)
    · exact hS.outcomes_overwrite h _
  · exact .error (.refl _)

theorem Lawful.entityId?_eq {list other : Value} (h : S.values list other) :
    Groups.entityId? list = Groups.entityId? other := by
  unfold Groups.entityId?
  have hpairs := hS.reads_pairs list other h
  revert hpairs
  generalize Groups.pairs list = entries
  generalize Groups.pairs other = entries'
  rintro (hentries | _)
  · induction hentries with
    | nil => rfl
    | @cons entry other rest rest' hentry hrest ih =>
        obtain ⟨code, value⟩ := entry
        obtain ⟨code', value'⟩ := other
        obtain ⟨rfl, hvalue⟩ : code = code' ∧ S.values value value' := hentry
        simp only [List.findSome?_cons] at ih ⊢
        cases hS.lift_iff.mp hvalue with
        | entity id => rw [ih]
        | _ => simpa using ih
  · rfl

theorem Lawful.entry (code : Int) {value other : Value} (h : S.values value other) :
    S.values (Groups.entry code value) (Groups.entry code other) :=
  hS.cons (hS.number _) (.cons h .nil)

theorem Lawful.describe (entity : Entity) :
    S.values (Groups.describe entity) (Groups.describe entity) := by
  refine hS.lift_iff.mpr (.list (by simp) (List.forall₂_same.mpr fun item hitem => ?_))
  have hreal (code : Int) (x : Float) : S.values (Groups.real code x) (Groups.real code x) :=
    hS.entry code (hS.number x)
  have hentity := hS.entry (-1) (hS.entity entity.id)
  have htext (code : Int) (text : String) := hS.entry code (hS.string text)
  obtain hitem | hitem := List.mem_append.mp hitem
  · simp only [List.mem_cons, List.not_mem_nil, or_false] at hitem
    obtain rfl | rfl | rfl := hitem
    · exact hentity
    · exact htext _ _
    · exact htext _ _
  · have hpoint (code : Int) (p : Point) : ∀ item ∈ Groups.pointEntries code p,
        S.values item item := by
      simp [Groups.pointEntries, hreal]
    cases hshape : entity.shape with
    | polyline vertices closed =>
        simp only [Groups.shapeEntries, hshape, Groups.vertexEntries, List.mem_cons,
          List.mem_flatMap, List.not_mem_nil, or_false] at hitem
        obtain rfl | ⟨p, -, rfl | rfl⟩ := hitem
        · exact hreal _ _
        · exact hreal _ _
        · exact hreal _ _
    | _ =>
        simp only [Groups.shapeEntries, hshape, List.mem_append, List.mem_cons,
          List.not_mem_nil, or_false] at hitem
        grind

end Groups

section Operators

open Editing

variable (hS : S.Lawful) {operands others : List Value}
  (h : List.Forall₂ S.values operands others)

include hS h

theorem Lawful.edits_writing {spell : Value → String}
    (hspell : ∀ value other, S.values value other → spell value = spell other) :
    S.Edits S.values (writing spell operands) (writing spell others) := by
  rcases h with _ | ⟨hvalue, _⟩
  · exact .pure hS.nil
  · simp only [writing, hspell _ _ hvalue]
    exact (Edits.refl _).bind fun _ _ _ => .pure hvalue

theorem Lawful.edits_prompt : S.Edits S.values (prompt operands) (prompt others) :=
  Edits.read hS.reads_string h 0 (of_same fun _ =>
    (Edits.refl _).bind fun _ _ _ => .pure hS.nil)

omit h in
theorem Lawful.edits_terpri : S.Edits S.values (terpri operands) (terpri others) :=
  (Edits.refl _).bind fun _ _ _ => .pure hS.nil

theorem Lawful.edits_alert : S.Edits S.values (alert operands) (alert others) := by
  refine (Edits.operand h 0).bind fun value other hvalue => ?_
  rw [hS.displayText_eq hvalue]
  exact (Edits.refl _).bind fun _ _ _ => .pure hS.nil

theorem Lawful.edits_distance : S.Edits S.values (distance operands) (distance others) :=
  Edits.read hS.reads_point h 0 (of_same fun _ =>
    Edits.read hS.reads_point h 1 (of_same fun _ => .pure (hS.number _)))

theorem Lawful.edits_angle : S.Edits S.values (angle operands) (angle others) :=
  Edits.read hS.reads_point h 0 (of_same fun _ =>
    Edits.read hS.reads_point h 1 (of_same fun _ => .pure (hS.number _)))

omit h in
theorem Lawful.ofPoint (p : Point) : S.values (.ofPoint p) (.ofPoint p) :=
  hS.cons (hS.number _) (.cons (hS.number _) (.cons (hS.number _) .nil))

theorem Lawful.edits_polar : S.Edits S.values (polar operands) (polar others) :=
  Edits.read hS.reads_point h 0 (of_same fun _ => Edits.read hS.reads_number h 1 (of_same fun _ =>
    Edits.read hS.reads_number h 2 (of_same fun _ => .pure (hS.ofPoint _))))

theorem Lawful.edits_inters : S.Edits S.values (inters operands) (inters others) := by
  refine Edits.read hS.reads_point h 0 (of_same fun a1 => ?_)
  refine Edits.read hS.reads_point h 1 (of_same fun a2 => ?_)
  refine Edits.read hS.reads_point h 2 (of_same fun b1 => ?_)
  refine Edits.read hS.reads_point h 3 (of_same fun b2 => ?_)
  have hverdict : operands[4]?.map Value.isTruthy = others[4]?.map Value.isTruthy := by
    have hfifth := getElem?_rel h 4
    revert hfifth
    generalize operands[4]? = value
    generalize others[4]? = other
    rintro (hvalue | _)
    · exact congrArg some (hS.isTruthy_eq hvalue)
    · rfl
  rw [hverdict]
  refine .pure (hS.ofOption ?_)
  cases Geometry.intersection? .. with
  | none => exact .none
  | some p => exact .some (hS.ofPoint p)

theorem Lawful.edits_entget : S.Edits S.values (entget operands) (entget others) := by
  refine Edits.read hS.reads_entity h 0 (of_same fun id => ?_)
  refine (Edits.refl _).bind (of_same fun found => .pure (hS.ofOption ?_))
  cases found with
  | none => exact .none
  | some entity => exact .some (hS.describe entity)

theorem Lawful.edits_entmod : S.Edits S.values (entmod operands) (entmod others) := by
  refine (Edits.operand h 0).bind fun list other hlist => ?_
  rw [hS.entityId?_eq hlist]
  split
  · exact .throw (.noEntityName hlist)
  · refine (Edits.refl _).bind (of_same fun entity => ?_)
    refine (Edits.lift (hS.outcomes_overwrite hlist _)).bind (of_same fun data => ?_)
    exact (Edits.refl _).bind fun _ _ _ => .pure hlist

theorem Lawful.edits_entmake : S.Edits S.values (entmake operands) (entmake others) := by
  refine (Edits.operand h 0).bind fun list other hlist => ?_
  refine (Edits.refl _).bind (of_same fun layer => ?_)
  refine (Edits.lift (hS.outcomes_create hlist layer)).bind (of_same fun data => ?_)
  exact (Edits.refl _).bind fun _ _ _ => .pure hlist

theorem Lawful.edits_entdel : S.Edits S.values (entdel operands) (entdel others) := by
  refine Edits.read hS.reads_entity h 0 (of_same fun id => ?_)
  refine (Edits.refl _).bind (of_same fun _ => ?_)
  exact (Edits.refl _).bind fun _ _ _ => .pure (hS.entity id)

omit h in
theorem Lawful.values_entity? (found : Option EntityId) :
    S.values (.ofOption (found.map .entity)) (.ofOption (found.map .entity)) := by
  cases found with
  | none => exact hS.nil
  | some id => exact hS.entity id

theorem Lawful.edits_entnext : S.Edits S.values (entnext operands) (entnext others) := by
  refine (Edits.refl _).bind (of_same fun ids => ?_)
  rcases h with _ | ⟨hafter, _⟩
  · exact .pure (hS.values_entity? _)
  · refine (Edits.lift (hS.reads_entity _ _ hafter)).bind (of_same fun id => ?_)
    exact .pure (hS.values_entity? _)

omit h in
theorem Lawful.edits_entlast : S.Edits S.values (entlast operands) (entlast others) := by
  refine (Edits.refl _).bind (of_same fun found => .pure (hS.ofOption ?_))
  cases found with
  | none => exact .none
  | some entity => exact .some (hS.entity _)

theorem Lawful.edits_entupd : S.Edits S.values (entupd operands) (entupd others) := by
  refine Edits.read hS.reads_entity h 0 (of_same fun id => ?_)
  refine (Edits.refl _).bind (of_same fun _ => ?_)
  exact (Edits.refl _).bind fun _ _ _ => .pure (hS.entity id)

omit h in
theorem Lawful.reads_commandName : S.Reads Eq commandName :=
  fun _ _ hvalue => (hS.reads_string _ _ hvalue).bind (of_same fun _ => .ok rfl)

omit h in
theorem Lawful.commandText_eq {value other : Value} (h : S.values value other) :
    commandText value = commandText other := by
  have htext := hS.displayText_eq h
  cases hS.lift_iff.mp h with
  | nil => rfl
  | _ => exact htext

omit h in
theorem Lawful.argumentText_eq {value other : Value} (h : S.values value other) :
    argumentText value = argumentText other := by
  unfold argumentText
  rw [hS.point?_eq h, hS.commandText_eq h]

theorem Lawful.feedAll_eq : feedAll operands = feedAll others := by
  induction h with
  | nil => rfl
  | cons hvalue _ ih =>
      rw [feedAll, feedAll, ih, feed, feed, hS.point?_eq hvalue, hS.commandText_eq hvalue]

theorem Lawful.edits_command : S.Edits S.values (command operands) (command others) := by
  rcases h with _ | ⟨hfirst, hrest⟩
  · exact (Edits.refl _).bind fun _ _ _ => .pure hS.nil
  · refine (Edits.lift (hS.reads_commandName _ _ hfirst)).bind (of_same fun name => ?_)
    rw [hS.feedAll_eq hrest]
    exact (Edits.refl _).bind fun _ _ _ => .pure hS.nil

theorem Lawful.argumentTexts_eq : operands.map argumentText = others.map argumentText := by
  induction h with
  | nil => rfl
  | cons hvalue _ ih => rw [List.map_cons, List.map_cons, hS.argumentText_eq hvalue, ih]

theorem Lawful.edits_commandAtOnce :
    S.Edits S.values (commandAtOnce operands) (commandAtOnce others) := by
  refine Edits.read hS.reads_commandName h 0 (of_same fun name => ?_)
  have hrest : operands.tail.map argumentText = others.tail.map argumentText := by
    rw [List.map_tail, List.map_tail, hS.argumentTexts_eq h]
  rw [hrest]
  exact (Edits.refl _).bind fun _ _ _ => .pure hS.truth

theorem Lawful.edits_getvar : S.Edits S.values (getvar operands) (getvar others) := by
  refine Edits.read hS.reads_string h 0 (of_same fun name => ?_)
  refine (Edits.refl _).bind (of_same fun found => ?_)
  split
  · exact .pure (hS.number _)
  · exact .pure (hS.string _)
  · exact .pure hS.nil

theorem Lawful.edits_setvar : S.Edits S.values (setvar operands) (setvar others) := by
  refine Edits.read hS.reads_string h 0 (of_same fun name => ?_)
  refine (Edits.operand h 1).bind fun value other hvalue => ?_
  cases hS.lift_iff.mp hvalue with
  | number x => exact (Edits.refl _).bind fun _ _ _ => .pure hvalue
  | string content => exact (Edits.refl _).bind fun _ _ _ => .pure hvalue
  | _ => exact Edits.throw_bind (.operand "setvar" "number or string" hvalue)

end Operators

theorem Lawful.acts_editing (hS : S.Lawful) : ∀ operator ∈ editing, S.Acts operator.action := by
  simp only [editing, List.forall_mem_cons]
  refine ⟨fun _ _ h => hS.edits_writing h fun _ _ => hS.displayText_eq,
    fun _ _ h => hS.edits_writing h fun _ _ => hS.text_eq,
    fun _ _ h => hS.edits_writing h fun _ _ hvalue => by rw [hS.text_eq hvalue],
    fun _ _ => hS.edits_prompt, fun _ _ _ => hS.edits_terpri, fun _ _ => hS.edits_alert,
    fun _ _ => hS.edits_distance, fun _ _ => hS.edits_angle, fun _ _ => hS.edits_polar,
    fun _ _ => hS.edits_inters, fun _ _ => hS.edits_entget, fun _ _ => hS.edits_entmod,
    fun _ _ => hS.edits_entmake, fun _ _ => hS.edits_entdel, fun _ _ => hS.edits_entnext,
    fun _ _ _ => hS.edits_entlast, fun _ _ => hS.edits_entupd, fun _ _ => hS.edits_command,
    fun _ _ => hS.edits_commandAtOnce, fun _ _ => hS.edits_getvar, fun _ _ => hS.edits_setvar,
    by simp⟩

section Asking

open Asking

variable (hS : S.Lawful) {operands others : List Value}

include hS

theorem Lawful.outcomes_promptAndBase (h : List.Forall₂ S.values operands others)
    (found : String × Option Point) :
    S.Outcomes Eq (promptAndBase operands found) (promptAndBase others found) := by
  induction h generalizing found with
  | nil => exact .ok rfl
  | @cons value other rest rest' hvalue hrest ih =>
      obtain ⟨prompt, base⟩ := found
      have hpoint := (hS.reads_point _ _ hvalue).bind (of_same fun p => ih (prompt, some p))
      cases hS.lift_iff.mp hvalue with
      | string text => exact ih (text, base)
      | nil => exact ih (prompt, base)
      | _ => exact hpoint

theorem Lawful.outcomes_requestFor (h : List.Forall₂ S.values operands others) (kind : InputKind)
    (drawing : Drawing) :
    S.Outcomes S.Demands (requestFor kind operands drawing) (requestFor kind others drawing) :=
  (hS.outcomes_promptAndBase h _).bind (of_same fun _ => .ok (.asked _))

theorem Lawful.outcomes_requestCorner (h : List.Forall₂ S.values operands others)
    (drawing : Drawing) :
    S.Outcomes S.Demands (requestCorner operands drawing) (requestCorner others drawing) := by
  rcases h with _ | ⟨hbase, hrest⟩
  · exact .error (.refl _)
  · refine (hS.reads_point _ _ hbase).bind (of_same fun _ => ?_)
    exact hS.outcomes_requestFor (.cons hbase hrest) _ _

theorem Lawful.outcomes_requestString (h : List.Forall₂ S.values operands others)
    (drawing : Drawing) :
    S.Outcomes S.Demands (requestString operands drawing) (requestString others drawing) := by
  refine hS.outcomes_requestFor (List.rel_filter (fun value other hvalue => ?_) h) _ _
  simp only [hS.string?_eq hvalue]

theorem Lawful.criterion?_eq {item other : Value} (h : S.values item other) :
    criterion? item = criterion? other := by
  cases hS.lift_iff.mp h with
  | list _ hitems =>
      rcases hitems with _ | ⟨hcode, _ | ⟨htext, _ | ⟨_, _⟩⟩⟩
      · rfl
      · simp [criterion?]
      · cases hS.lift_iff.mp hcode with
        | number code => cases hS.lift_iff.mp htext <;> rfl
        | _ => simp [criterion?]
      · simp [criterion?]
  | _ => rfl

theorem Lawful.criteria_eq (h : List.Forall₂ S.values operands others) :
    operands.filterMap criterion? = others.filterMap criterion? := by
  induction h with
  | nil => rfl
  | cons hitem _ ih => rw [List.filterMap_cons, List.filterMap_cons, hS.criterion?_eq hitem, ih]

theorem Lawful.outcomes_selectAll {filter other : Option Value}
    (h : Option.Rel S.values filter other) (drawing : Drawing) :
    S.Outcomes S.values (selectAll filter drawing) (selectAll other drawing) := by
  have hchosen (ids : List EntityId) (none : Bool) :
      S.values (if none then .nil else .selection ids) (if none then .nil else .selection ids) := by
    split
    · exact hS.nil
    · exact hS.selection ids
  cases h with
  | none => exact .ok (hchosen _ _)
  | some hlist =>
      refine (hS.reads_list _ _ hlist).bind fun items others hitems => ?_
      rw [hS.criteria_eq hitems]
      exact .ok (hchosen _ _)

theorem Lawful.outcomes_selectEntities (h : List.Forall₂ S.values operands others)
    (drawing : Drawing) :
    S.Outcomes S.Demands (selectEntities operands drawing) (selectEntities others drawing) := by
  rcases h with _ | ⟨hmode, hrest⟩
  · exact .ok (.asked _)
  · have hfilter : Option.Rel S.values _ _ := getElem?_rel hrest 0
    cases hS.lift_iff.mp hmode with
    | string mode =>
        simp only [selectEntities]
        split
        · rw [List.head?_eq_getElem?, List.head?_eq_getElem?]
          exact (hS.outcomes_selectAll hfilter _).bind fun _ _ hvalue => .ok (.answered hvalue)
        · exact .error (.refl _)
    | _ => exact .ok (.asked _)

theorem Lawful.acts_asking : ∀ operator ∈ Builtin.asking, S.Acts operator.action := by
  have hrequest (kind : InputKind) : S.Acts (.input (requestFor kind)) :=
    fun _ _ drawing h => hS.outcomes_requestFor h kind drawing
  simp only [Builtin.asking, List.forall_mem_cons]
  exact ⟨hrequest _, fun _ _ drawing h => hS.outcomes_requestCorner h drawing, hrequest _,
    hrequest _, hrequest _, hrequest _, fun _ _ drawing h => hS.outcomes_requestString h drawing,
    hrequest _, hrequest _, fun _ _ drawing h => hS.outcomes_selectEntities h drawing, by simp⟩

end Asking

/-- Every builtin operator that may be named treats corresponding operands alike. -/
theorem Lawful.acts_of_mem (hS : S.Lawful) {operator : Builtin} (hmem : operator ∈ Builtin.all)
    (hspoken : S.spoken operator.name) : S.Acts operator.action := by
  simp only [Builtin.all, List.mem_append] at hmem
  obtain ((((((((h | h) | h) | h) | h) | h) | h) | h) | h) := hmem
  · exact hS.acts_arithmetic operator h
  · exact hS.acts_comparisons operator h
  · exact hS.acts_lists operator h
  · exact hS.acts_texts operator h hspoken
  · exact hS.acts_predicates operator h
  · exact hS.acts_selections operator h
  · exact hS.acts_editing operator h
  · exact hS.acts_asking operator h
  · simp only [controls, List.mem_cons, List.not_mem_nil, or_false] at h
    obtain rfl | rfl | rfl := h <;> exact trivial

end Simulation

end DraftLisp

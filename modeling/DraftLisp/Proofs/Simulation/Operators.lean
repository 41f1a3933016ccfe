import DraftLisp.Builtin.Registry
import DraftLisp.Proofs.Simulation.Outcomes

namespace DraftLisp

open Builtin

namespace Simulation

variable {S : Simulation} {α β : Type} {R : α → β → Prop}

section Arithmetic

open Arithmetic

variable (hS : S.Lawful)

include hS

theorem Lawful.respects_numbers (run : List Float → Float) :
    S.Respects (variadic numbers fun xs => Builtin.number (run xs)) :=
  respects_variadic hS.reads_numbers (of_same fun _ => hS.outcomes_number _)

theorem Lawful.respects_number (run : Float → Float) :
    S.Respects (unary Value.expectNumber fun x => Builtin.number (run x)) :=
  respects_unary hS.reads_number (of_same fun _ => hS.outcomes_number _)

theorem Lawful.respects_numbersFrom (run : Float → List Float → Float) :
    S.Respects (unaryRest Value.expectNumber numbers fun x rest => Builtin.number (run x rest)) :=
  readsRest_unaryRest hS.reads_number hS.reads_numbers
    (of_same fun _ => of_same fun _ => hS.outcomes_number _)

theorem Lawful.respects_divideAll (divide : Float → Float → Float) :
    S.Respects (unaryRest Value.expectNumber numbers fun x rest => do
      Builtin.number (← divideAll divide x rest)) :=
  readsRest_unaryRest hS.reads_number hS.reads_numbers (of_same fun _ => of_same fun _ =>
    (Outcomes.of_self (R := Eq) fun _ _ => rfl).bind (of_same fun _ => hS.outcomes_number _))

theorem Lawful.respects_squareRoot : S.Respects (unary Value.expectNumber squareRoot) := by
  refine respects_unary hS.reads_number (of_same fun x => ?_)
  unfold squareRoot
  split
  · exact .error (.refl _)
  · exact hS.outcomes_number _

theorem Lawful.respects_logarithm : S.Respects (unary Value.expectNumber logarithm) := by
  refine respects_unary hS.reads_number (of_same fun x => ?_)
  unfold logarithm
  split
  · exact .error (.refl _)
  · exact hS.outcomes_number _

theorem Lawful.respects_commonDivisor :
    S.Respects (binary Value.expectNumber Value.expectNumber commonDivisor) := by
  refine respects_binary hS.reads_number hS.reads_number (of_same fun x => of_same fun y => ?_)
  unfold commonDivisor
  split
  · exact hS.outcomes_number _
  · exact .error (.refl _)

theorem Lawful.acts_arithmetic : ∀ operator ∈ arithmetic, S.Acts operator.action := by
  simp only [arithmetic, List.forall_mem_cons]
  refine ⟨acts_function (hS.respects_numbers _), acts_function (hS.respects_numbers _),
    acts_function (hS.respects_numbers _), acts_function (hS.respects_divideAll _),
    acts_function (hS.respects_number _), acts_function (hS.respects_number _),
    acts_function (hS.respects_number _), acts_function hS.respects_squareRoot,
    acts_function ?_, acts_function (hS.respects_number _), acts_function hS.respects_logarithm,
    acts_function (hS.respects_number _), acts_function (hS.respects_number _),
    acts_function (hS.respects_numbersFrom _), acts_function (hS.respects_divideAll _),
    acts_function (hS.respects_number _), acts_function (hS.respects_number _),
    acts_function (hS.respects_numbersFrom _), acts_function (hS.respects_numbersFrom _),
    acts_function hS.respects_commonDivisor, acts_function (hS.respects_numbers _),
    acts_function (hS.respects_numbers _), by simp⟩
  exact respects_binary hS.reads_number hS.reads_number
    (of_same fun _ => of_same fun _ => hS.outcomes_number _)

end Arithmetic

section Comparisons

open Comparison

variable (hS : S.Lawful)

omit hS in
theorem equalItems_eq {fuzz : Float} {items others keys keys' : List Value}
    (h : List.Forall₂ (fun value other => ∀ key key', S.values key key' →
      equalWithin fuzz value key = equalWithin fuzz other key') items others)
    (hkeys : List.Forall₂ S.values keys keys') :
    equalItems fuzz items keys = equalItems fuzz others keys' := by
  induction h generalizing keys keys' with
  | nil => cases hkeys <;> rfl
  | cons hfirst hrest ih =>
      cases hkeys with
      | nil => rfl
      | cons hkey hkeys => rw [equalItems, equalItems, hfirst _ _ hkey, ih hkeys]

include hS

theorem Lawful.equalWithin_eq (fuzz : Float) {value other key key' : Value}
    (h : S.values value other) (hkey : S.values key key') :
    equalWithin fuzz value key = equalWithin fuzz other key' := by
  induction value using Value.induction generalizing other key key' with
  | number x =>
      cases hS.lift_iff.mp h
      cases hS.lift_iff.mp hkey with
      | number y => rfl
      | _ => exact hS.beq_eq h hkey
  | list items ih =>
      cases hS.lift_iff.mp h with
      | list _ hitems =>
          cases hS.lift_iff.mp hkey with
          | list _ hkeys =>
              rw [equalWithin, equalWithin]
              exact equalItems_eq (forall₂_of_mem hitems fun item hitem other h key key' =>
                ih item hitem h) hkeys
          | _ => exact hS.beq_eq h hkey
  | _ =>
      cases hS.lift_iff.mp h
      exact hS.beq_eq h hkey

theorem Lawful.outcomes_order {value other key key' : Value} (h : S.values value other)
    (hkey : S.values key key') : S.Outcomes Eq (order value key) (order other key') := by
  cases hS.lift_iff.mp h with
  | number x =>
      cases hS.lift_iff.mp hkey with
      | number y => exact .of_self fun _ _ => rfl
      | _ => exact .error (.incomparable h hkey)
  | string text =>
      cases hS.lift_iff.mp hkey with
      | string other => exact .ok rfl
      | _ => exact .error (.incomparable h hkey)
  | _ => exact .error (.incomparable h hkey)

theorem Lawful.outcomes_chain (test : Ordering → Bool) {value other : Value}
    (h : S.values value other) {rest others : List Value}
    (hrest : List.Forall₂ S.values rest others) :
    S.Outcomes Eq (chain test value rest) (chain test other others) := by
  induction hrest generalizing value other with
  | nil => exact .ok rfl
  | cons hnext hrest ih =>
      refine (hS.outcomes_order h hnext).bind (of_same fun ordering => ?_)
      split
      · exact ih hnext
      · exact .ok rfl

theorem Lawful.acts_comparison (name : String) (test : Ordering → Bool) :
    S.Acts (comparison name test).action :=
  acts_function (readsRest_unaryRest reads_anyValue reads_anyValues fun _ _ h _ _ hrest =>
    (hS.outcomes_chain test h hrest).bind (of_same fun _ => hS.outcomes_flag rfl))

theorem Lawful.acts_comparisons : ∀ operator ∈ comparisons, S.Acts operator.action := by
  simp only [comparisons, List.forall_mem_cons]
  refine ⟨hS.acts_comparison _ _, hS.acts_comparison _ _, hS.acts_comparison _ _,
    hS.acts_comparison _ _, hS.acts_comparison _ _, hS.acts_comparison _ _, acts_function ?_,
    acts_function ?_, by simp⟩
  · exact respects_binary reads_anyValue reads_anyValue fun _ _ h _ _ hkey =>
      hS.outcomes_flag (hS.beq_eq h hkey)
  · exact respects_binaryRest reads_anyValue reads_anyValue hS.reads_numbers
      fun _ _ h _ _ hkey => of_same fun fuzz => hS.outcomes_flag (hS.equalWithin_eq _ h hkey)

end Comparisons

section Lists

open Lists

theorem headD_rel {items others : List Value} (h : List.Forall₂ S.values items others)
    {value other : Value} (hdefault : S.values value other) :
    S.values (items.headD value) (others.headD other) := by
  cases h with
  | nil => exact hdefault
  | cons h _ => exact h

variable (hS : S.Lawful)

include hS

theorem Lawful.outcomes_car {value other : Value} (h : S.values value other) :
    S.Outcomes S.values (car value) (car other) :=
  (hS.reads_list _ _ h).bind fun _ _ hitems => .ok (headD_rel hitems hS.nil)

theorem Lawful.outcomes_cdr {value other : Value} (h : S.values value other) :
    S.Outcomes S.values (cdr value) (cdr other) := by
  refine (hS.reads_list _ _ h).bind fun _ _ hitems => .ok (hS.ofList ?_)
  cases hitems with
  | nil => exact .nil
  | cons _ hrest => exact hrest

theorem Lawful.values_cons {value other rest rest' : Value} (h : S.values value other)
    (hrest : S.values rest rest') :
    S.values (Lists.cons value rest) (Lists.cons other rest') := by
  unfold Lists.cons
  rcases hS.items_cases hrest with ⟨hnone, hnone'⟩ | ⟨items, others, hitems, hothers, hrel⟩
  · rw [hnone, hnone']
    exact hS.cons h (.cons hrest .nil)
  · rw [hitems, hothers]
    exact hS.cons h hrel

theorem Lawful.outcomes_append {lists others : List Value}
    (h : List.Forall₂ S.values lists others) :
    S.Outcomes S.values (append lists) (append others) :=
  (Outcomes.mapM hS.reads_list h).bind fun _ _ hitems => .ok (hS.ofList (List.rel_flatten hitems))

theorem Lawful.values_member {value other : Value} (h : S.values value other)
    {items others : List Value} (hitems : List.Forall₂ S.values items others) :
    S.values (Lists.member value items) (Lists.member other others) := by
  induction hitems with
  | nil => exact hS.nil
  | cons hfirst hrest ih =>
      rw [Lists.member, Lists.member, hS.beq_eq hfirst h]
      split
      · exact hS.cons hfirst hrest
      · exact ih

theorem Lawful.values_assoc {key other : Value} (h : S.values key other)
    {entries others : List Value} (hentries : List.Forall₂ S.values entries others) :
    S.values (assoc key entries) (assoc other others) := by
  refine hS.ofOption (find?_rel hentries fun entry entry' hentry => ?_)
  rcases hS.items_cases hentry with ⟨hnone, hnone'⟩ | ⟨items, others, hitems, hothers, hrel⟩
  · rw [hnone, hnone']
  · rw [hitems, hothers]
    cases hrel with
    | nil => rfl
    | cons hfirst _ => exact hS.beq_eq hfirst h

omit hS in
theorem substituteItems_rel {new old new' old' : Value} {items others : List Value}
    (h : List.Forall₂ (fun item other =>
      S.values (substitute new old item) (substitute new' old' other)) items others) :
    List.Forall₂ S.values (substituteItems new old items) (substituteItems new' old' others) := by
  induction h with
  | nil => exact .nil
  | cons hfirst hrest ih => exact .cons hfirst ih

theorem Lawful.values_substitute {new new' old old' tree tree' : Value} (hnew : S.values new new')
    (hold : S.values old old') (h : S.values tree tree') :
    S.values (substitute new old tree) (substitute new' old' tree') := by
  induction tree using Value.induction generalizing tree' with
  | list items ih =>
      cases hS.lift_iff.mp h with
      | list _ hitems =>
          rw [substitute, substitute, hS.beq_eq h hold]
          split
          · exact hnew
          · exact hS.ofList (substituteItems_rel
              (forall₂_of_mem hitems fun item hitem _ => ih item hitem))
  | _ =>
      cases hS.lift_iff.mp h
      simp only [substitute, hS.beq_eq h hold]
      split
      · exact hnew
      · exact h

theorem Lawful.values_nth (index : Float) {items others : List Value}
    (h : List.Forall₂ S.values items others) : S.values (nth index items) (nth index others) := by
  apply hS.ofOption
  cases position? index with
  | none => exact .none
  | some place => exact getElem?_rel h place

theorem Lawful.values_last {items others : List Value} (h : List.Forall₂ S.values items others) :
    S.values (.ofOption items.getLast?) (.ofOption others.getLast?) := by
  apply hS.ofOption
  rw [List.getLast?_eq_getElem?, List.getLast?_eq_getElem?, h.length_eq]
  exact getElem?_rel h _

theorem Lawful.values_positionOf {item other : Value} (h : S.values item other)
    {items others : List Value} (hitems : List.Forall₂ S.values items others) :
    S.values (positionOf item items) (positionOf other others) := by
  unfold positionOf
  rw [findIdx?_eq hitems fun _ _ hitem => hS.beq_eq hitem h]
  apply hS.ofOption
  cases others.findIdx? (· == other) with
  | none => exact .none
  | some place => exact .some (hS.number _)

theorem Lawful.values_without {item other : Value} (h : S.values item other)
    {items others : List Value} (hitems : List.Forall₂ S.values items others) :
    S.values (without item items) (without other others) := by
  refine hS.ofList (List.rel_filter (fun first second hfirst => ?_) hitems)
  simp only [bne, hS.beq_eq hfirst h]

theorem Lawful.acts_listOperator {name : String} {run : List Value → Except Error Value}
    (h : S.Respects run) : S.Acts (listOperator name run).action :=
  acts_function (respects_unary hS.reads_list h)

omit hS in
theorem respects_path {first second : Value → Except Error Value}
    (hfirst : ∀ value other, S.values value other → S.Outcomes S.values (first value) (first other))
    (hsecond : ∀ value other, S.values value other →
      S.Outcomes S.values (second value) (second other)) :
    S.Respects (unary anyValue fun list => do second (← first list)) :=
  respects_unary reads_anyValue fun _ _ h => (hfirst _ _ h).bind hsecond

theorem Lawful.acts_lists : ∀ operator ∈ lists, S.Acts operator.action := by
  have hcar : ∀ value other, S.values value other → S.Outcomes S.values (car value) (car other) :=
    fun _ _ => hS.outcomes_car
  have hcdr : ∀ value other, S.values value other → S.Outcomes S.values (cdr value) (cdr other) :=
    fun _ _ => hS.outcomes_cdr
  simp only [lists, List.forall_mem_cons]
  refine ⟨acts_function (respects_unary reads_anyValue hcar),
    acts_function (respects_unary reads_anyValue hcdr),
    acts_function (respects_path hcar hcar), acts_function (respects_path hcdr hcar),
    acts_function (respects_path hcar hcdr), acts_function (respects_path hcdr hcdr),
    acts_function ?_, acts_function ?_, acts_function ?_, acts_function ?_,
    hS.acts_listOperator ?_, acts_function ?_, hS.acts_listOperator ?_, hS.acts_listOperator ?_,
    acts_function ?_, acts_function ?_, acts_function ?_, acts_function ?_, acts_function ?_,
    by simp⟩
  · refine respects_unary reads_anyValue fun _ _ h => (hcdr _ _ h).bind fun _ _ h => ?_
    exact (hcdr _ _ h).bind hcar
  · exact respects_variadic reads_anyValues fun _ _ h => .ok (hS.ofList h)
  · exact respects_binary reads_anyValue reads_anyValue fun _ _ h _ _ hrest =>
      .ok (hS.values_cons h hrest)
  · exact respects_variadic reads_anyValues fun _ _ h => hS.outcomes_append h
  · exact fun _ _ h => hS.outcomes_count h.length_eq
  · exact respects_binary hS.reads_number hS.reads_list
      (of_same fun index _ _ h => .ok (hS.values_nth index h))
  · exact fun _ _ h => .ok (hS.values_last h)
  · exact fun _ _ h => .ok (hS.ofList (List.rel_reverse h))
  · exact respects_binary reads_anyValue reads_anyValue fun _ _ h _ _ hlist =>
      (hS.reads_list _ _ hlist).bind fun _ _ hitems => .ok (hS.values_member h hitems)
  · exact respects_binary reads_anyValue hS.reads_list fun _ _ h _ _ hentries =>
      .ok (hS.values_assoc h hentries)
  · exact respects_ternary reads_anyValue reads_anyValue reads_anyValue
      fun _ _ hnew _ _ hold _ _ hlist => (hS.reads_list _ _ hlist).bind fun _ _ _ =>
        .ok (hS.values_substitute hnew hold hlist)
  · exact respects_binary reads_anyValue hS.reads_list fun _ _ h _ _ hitems =>
      .ok (hS.values_positionOf h hitems)
  · exact respects_binary reads_anyValue hS.reads_list fun _ _ h _ _ hitems =>
      .ok (hS.values_without h hitems)

end Lists

section Strings

open Strings

variable (hS : S.Lawful)

omit hS in
theorem ok_of_string {text : String} {result : Value} (h : Builtin.string text = .ok result) :
    result = .string text := by
  cases h
  rfl

include hS

theorem Lawful.outcomes_substring (text : String) (start : Float) (length : List Float) :
    S.Outcomes S.values (substring text start length) (substring text start length) := by
  refine .of_self fun result h => ?_
  unfold substring at h
  split at h
  · cases h
  · simp only at h
    split at h
    · rw [ok_of_string h]
      exact hS.string _
    · split at h
      · rw [ok_of_string h]
        exact hS.string _
      · cases h

theorem Lawful.changeCase_eq (text : String) {options others : List Value}
    (h : List.Forall₂ S.values options others) :
    changeCase text options = changeCase text others := by
  cases h with
  | nil => rfl
  | cons h _ => rw [changeCase, changeCase, hS.isTruthy_eq h]

theorem Lawful.outcomes_character (code : Float) :
    S.Outcomes S.values (character code) (character code) := by
  unfold character
  simp only
  split
  · exact hS.outcomes_string _
  · exact .error (.refl _)

theorem Lawful.values_search (pattern text : String) (start : List Float) :
    S.values (search pattern text start) (search pattern text start) := by
  apply hS.ofOption
  cases searchFrom _ _ _ with
  | none => exact .none
  | some place => exact .some (hS.number _)

theorem Lawful.outcomes_readData (h : S.spoken "READ") (text : String) :
    S.Outcomes S.values (readData text) (readData text) := by
  refine .of_self fun result hresult => ?_
  unfold readData at hresult
  cases hread : Reader.readText Reader.defaultLimit text with
  | error error =>
      rw [hread] at hresult
      cases hresult
  | ok forms =>
      rw [hread] at hresult
      cases forms with
      | nil =>
          cases hresult
          exact hS.nil
      | cons form rest =>
          cases hresult
          exact hS.ofForm (hS.spoken_read h hread form List.mem_cons_self)

theorem Lawful.endings_spellNumber (x : Float) (options : List Float) :
    S.Endings S.values (spellNumber x options) (spellNumber x options) := by
  unfold spellNumber
  simp only
  split
  · exact .halt .overlong
  · exact .ok (hS.string _)

theorem Lawful.acts_texts :
    ∀ operator ∈ texts, S.spoken operator.name → S.Acts operator.action := by
  simp only [texts, List.forall_mem_cons]
  refine ⟨fun _ => acts_function ?_, fun _ => acts_function ?_, fun _ => acts_function ?_,
    fun _ => acts_function ?_, fun _ => acts_function ?_, fun _ => acts_function ?_,
    fun _ => acts_function ?_, fun _ _ _ hoperands => ?_, fun _ => acts_function ?_,
    fun _ => acts_function ?_, fun _ => acts_function ?_, fun _ => acts_function ?_,
    fun hread => acts_function ?_, by simp⟩
  · exact respects_variadic hS.reads_strings (of_same fun _ => hS.outcomes_string _)
  · exact respects_variadic hS.reads_strings (of_same fun _ => hS.outcomes_count rfl)
  · exact respects_binaryRest hS.reads_string hS.reads_number hS.reads_numbers
      (of_same fun _ => of_same fun _ => of_same fun _ => hS.outcomes_substring _ _ _)
  · refine readsRest_unaryRest hS.reads_string reads_anyValues (of_same fun text _ _ h => ?_)
    rw [hS.changeCase_eq text h]
    exact hS.outcomes_string _
  · exact respects_unary hS.reads_string (of_same fun _ => hS.outcomes_number _)
  · exact respects_unary hS.reads_string (of_same fun _ => hS.outcomes_number _)
  · exact respects_unary hS.reads_number (of_same fun _ => hS.outcomes_string _)
  · have hreaders : S.ReadsRest Eq
        (unaryRest Value.expectNumber numbers fun x options => .ok (x, options)) :=
      readsRest_unaryRest hS.reads_number hS.reads_numbers
        (of_same fun _ => of_same fun _ => .ok rfl)
    exact (hreaders _ _ hoperands).halting.bind (of_same fun _ => hS.endings_spellNumber _ _)
  · exact respects_unary hS.reads_number (of_same fun _ => hS.outcomes_character _)
  · exact respects_unary hS.reads_string (of_same fun _ => hS.outcomes_count rfl)
  · exact respects_binaryRest hS.reads_string hS.reads_string hS.reads_numbers
      (of_same fun _ => of_same fun _ => of_same fun _ => .ok (hS.values_search _ _ _))
  · refine respects_unary reads_anyValue fun value other h => ?_
    rw [hS.displayText_eq h]
    exact hS.outcomes_string _
  · exact respects_unary hS.reads_string (of_same fun _ => hS.outcomes_readData hread _)

end Strings

section Predicates

open Predicates

variable (hS : S.Lawful)

include hS

theorem Lawful.isAtom_eq {value other : Value} (h : S.values value other) :
    isAtom value = isAtom other := by
  cases hS.lift_iff.mp h <;> rfl

theorem Lawful.values_typeSymbol {value other : Value} (h : S.values value other) :
    S.values (typeSymbol value) (typeSymbol other) := by
  unfold typeSymbol
  rw [hS.isNil_eq h, hS.typeName_eq h]
  split
  · exact hS.nil
  · exact hS.symbol (hS.spoken_typeName other)

theorem Lawful.acts_predicate {name : String} {test : Value → Bool}
    (h : ∀ value other, S.values value other → test value = test other) :
    S.Acts (predicate name test).action :=
  acts_function (respects_unary reads_anyValue fun _ _ hvalue =>
    hS.outcomes_flag (h _ _ hvalue))

theorem Lawful.acts_predicates : ∀ operator ∈ predicates, S.Acts operator.action := by
  simp only [predicates, List.forall_mem_cons]
  refine ⟨hS.acts_predicate fun _ _ => hS.isNil_eq, hS.acts_predicate fun _ _ => hS.isNil_eq,
    hS.acts_predicate fun _ _ => hS.isAtom_eq, hS.acts_predicate fun _ _ => hS.isSome_items_eq,
    hS.acts_predicate fun _ _ h => congrArg Option.isSome (hS.number?_eq h), acts_function ?_,
    acts_function ?_, acts_function ?_, by simp⟩
  · exact respects_unary hS.reads_number (of_same fun _ => hS.outcomes_flag rfl)
  · exact respects_unary hS.reads_number (of_same fun _ => hS.outcomes_flag rfl)
  · exact respects_unary reads_anyValue fun _ _ h => .ok (hS.values_typeSymbol h)

end Predicates

section Selections

open Selections

variable (hS : S.Lawful)

include hS

theorem Lawful.values_memberAt (ids : List EntityId) (index : Float) :
    S.values (Selections.member ids index) (Selections.member ids index) := by
  apply hS.ofOption
  cases (position? index).bind (ids[·]?) with
  | none => exact .none
  | some id => exact .some (hS.entity id)

theorem Lawful.outcomes_add {operands others : List Value}
    (h : List.Forall₂ S.values operands others) :
    S.Outcomes S.values (add operands) (add others) := by
  rcases h with _ | ⟨hentity, _ | ⟨hset, hrest⟩⟩
  · exact .ok (hS.selection [])
  · exact (hS.reads_entity _ _ hentity).bind (of_same fun _ => .ok (hS.selection _))
  · refine (hS.reads_entity _ _ hentity).bind (of_same fun id => ?_)
    exact (hS.reads_selection _ _ hset).bind (of_same fun _ => .ok (hS.selection _))

theorem Lawful.outcomes_delete (id : EntityId) {set other : Value} (h : S.values set other) :
    S.Outcomes S.values (delete id set) (delete id other) := by
  refine (hS.reads_selection _ _ h).bind (of_same fun ids => .ok ?_)
  split
  · exact hS.selection _
  · exact hS.nil

theorem Lawful.outcomes_memberIn (id : EntityId) {set other : Value} (h : S.values set other) :
    S.Outcomes S.values (memberIn id set) (memberIn id other) := by
  refine (hS.reads_selection _ _ h).bind (of_same fun ids => .ok ?_)
  split
  · exact hS.entity _
  · exact hS.nil

theorem Lawful.acts_selections : ∀ operator ∈ selections, S.Acts operator.action := by
  simp only [selections, List.forall_mem_cons]
  refine ⟨acts_function ?_, acts_function ?_, acts_function ?_, acts_function ?_, acts_function ?_,
    by simp⟩
  · exact respects_unary hS.reads_selection (of_same fun _ => hS.outcomes_count rfl)
  · refine respects_binary reads_anyValue hS.reads_number fun _ _ hset => of_same fun index => ?_
    exact (hS.reads_selection _ _ hset).bind (of_same fun _ => .ok (hS.values_memberAt _ _))
  · exact respects_variadic reads_anyValues fun _ _ h => hS.outcomes_add h
  · exact respects_binary hS.reads_entity reads_anyValue
      (of_same fun id _ _ h => hS.outcomes_delete id h)
  · exact respects_binary hS.reads_entity reads_anyValue
      (of_same fun id _ _ h => hS.outcomes_memberIn id h)

end Selections

end Simulation

end DraftLisp

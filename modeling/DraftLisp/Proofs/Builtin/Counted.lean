import DraftLisp.Builtin.Registry

namespace DraftLisp

/-- The operands that an operator needs to call back into the evaluator. -/
def Control.Served : Control → List Value → Prop
  | .eval, operands => ∃ value, operands = [value]
  | .apply, operands => ∃ head list, operands = [head, list]
  | .mapcar, operands => ∃ head first lists, operands = head :: first :: lists

/-- An error about the number of operands. -/
def Error.isArity : Error → Bool
  | .arity _ _ _ => true
  | _ => false

theorem Error.named_of_not_arity {error : Error} (h : error.isArity = false) (operator : String) :
    error.named operator = error := by
  cases error with
  | arity expected got operator => cases h
  | _ => rfl

namespace Arity

/-- The smallest number of operands that is accepted. -/
def least : Arity → Nat
  | .exactly count => count
  | .atLeast count => count
  | .between least _ => least
  | .any => 0

theorem accepts_of_check {arity : Arity} {got : Nat} (h : arity.check got = .ok ()) :
    arity.accepts got := by
  unfold check at h
  unfold accepts
  split at h
  · cases h
  · rename_i hbroken
    rw [hbroken]
    rfl

theorem check_of_accepts {arity : Arity} {got : Nat} (h : arity.accepts got) :
    arity.check got = .ok () := by
  rw [check, Option.isNone_iff_eq_none.mp h]

theorem least_le {arity : Arity} {got : Nat} (h : arity.accepts got) : arity.least ≤ got := by
  unfold accepts broken? at h
  cases arity with
  | any => exact Nat.zero_le got
  | _ => grind [least]

theorem eq_of_accepts_exactly {count got : Nat} (h : (Arity.exactly count).accepts got) :
    got = count := by
  unfold accepts broken? at h
  grind

end Arity

namespace Builtin

/-- The result is no error about the number of operands. -/
inductive Counted : Except Error α → Prop
  | ok (value : α) : Counted (.ok value)
  | error {error : Error} (h : error.isArity = false) : Counted (.error error)

section Counted

theorem Counted.bind {first : Except Error α} {next : α → Except Error β} (h : Counted first)
    (hnext : ∀ value, Counted (next value)) : Counted (first >>= next) := by
  cases h with
  | ok value => exact hnext value
  | error h => exact .error h

theorem counted_mapM {read : α → Except Error β} (h : ∀ item, Counted (read item))
    (items : List α) : Counted (items.mapM read) := by
  induction items with
  | nil => exact .ok []
  | cons item rest ih =>
      rw [List.mapM_cons]
      exact (h item).bind fun first => ih.bind fun others => .ok _

theorem counted_orExpected (what : String) (value : Value) (found : Option α) :
    Counted (Value.orExpected what value found) := by
  cases found with
  | none => exact .error rfl
  | some found => exact .ok found

theorem counted_anyValue (value : Value) : Counted (anyValue value) := .ok value

theorem counted_anyValues (values : List Value) : Counted (anyValues values) := .ok values

theorem counted_expectNumber (value : Value) : Counted (Value.expectNumber value) :=
  counted_orExpected _ _ _

theorem counted_expectString (value : Value) : Counted (Value.expectString value) :=
  counted_orExpected _ _ _

theorem counted_expectList (value : Value) : Counted (Value.expectList value) :=
  counted_orExpected _ _ _

theorem counted_expectPoint (value : Value) : Counted (Value.expectPoint value) :=
  counted_orExpected _ _ _

theorem counted_expectEntity (value : Value) : Counted (Value.expectEntity value) :=
  counted_orExpected _ _ _

theorem counted_expectSelection (value : Value) : Counted (Value.expectSelection value) :=
  counted_orExpected _ _ _

theorem counted_numbers (values : List Value) : Counted (numbers values) :=
  counted_mapM counted_expectNumber values

theorem counted_strings (values : List Value) : Counted (strings values) :=
  counted_mapM counted_expectString values

end Counted

/-- No accepted number of operands is an error. -/
def Answers (arity : Arity) (run : List Value → Except Error ρ) : Prop :=
  ∀ operands, arity.accepts operands.length → Counted (run operands)

section Adapters

variable {arity : Arity} {first : Reader α} {second : Reader β} {third : Reader γ}
  {rest : RestReader δ}

theorem answers_unary {run : α → Except Error ρ} (hfirst : ∀ value, Counted (first value))
    (hrun : ∀ a, Counted (run a)) : Answers (.exactly 1) (unary first run) := by
  intro operands haccepts
  have hlength := Arity.eq_of_accepts_exactly haccepts
  rcases operands with _ | ⟨a, _ | ⟨b, others⟩⟩
  · cases hlength
  · exact (hfirst a).bind hrun
  · cases hlength

theorem answers_binary {run : α → β → Except Error ρ} (hfirst : ∀ value, Counted (first value))
    (hsecond : ∀ value, Counted (second value)) (hrun : ∀ a b, Counted (run a b)) :
    Answers (.exactly 2) (binary first second run) := by
  intro operands haccepts
  have hlength := Arity.eq_of_accepts_exactly haccepts
  rcases operands with _ | ⟨a, _ | ⟨b, _ | ⟨c, others⟩⟩⟩
  · cases hlength
  · cases hlength
  · exact (hfirst a).bind fun _ => (hsecond b).bind fun _ => hrun _ _
  · cases hlength

theorem answers_ternary {run : α → β → γ → Except Error ρ}
    (hfirst : ∀ value, Counted (first value)) (hsecond : ∀ value, Counted (second value))
    (hthird : ∀ value, Counted (third value)) (hrun : ∀ a b c, Counted (run a b c)) :
    Answers (.exactly 3) (ternary first second third run) := by
  intro operands haccepts
  have hlength := Arity.eq_of_accepts_exactly haccepts
  rcases operands with _ | ⟨a, _ | ⟨b, _ | ⟨c, _ | ⟨d, others⟩⟩⟩⟩
  · cases hlength
  · cases hlength
  · cases hlength
  · exact (hfirst a).bind fun _ => (hsecond b).bind fun _ => (hthird c).bind fun _ => hrun _ _ _
  · cases hlength

theorem answers_variadic {run : δ → Except Error ρ} (hrest : ∀ values, Counted (rest values))
    (hrun : ∀ values, Counted (run values)) : Answers arity (variadic rest run) :=
  fun operands _ => (hrest operands).bind hrun

theorem answers_unaryRest {run : α → δ → Except Error ρ} (hleast : 1 ≤ arity.least)
    (hfirst : ∀ value, Counted (first value)) (hrest : ∀ values, Counted (rest values))
    (hrun : ∀ a values, Counted (run a values)) : Answers arity (unaryRest first rest run) := by
  intro operands haccepts
  have hlength := Nat.le_trans hleast (Arity.least_le haccepts)
  rcases operands with _ | ⟨a, others⟩
  · cases hlength
  · exact (hfirst a).bind fun _ => (hrest others).bind fun _ => hrun _ _

theorem answers_binaryRest {run : α → β → δ → Except Error ρ} (hleast : 2 ≤ arity.least)
    (hfirst : ∀ value, Counted (first value)) (hsecond : ∀ value, Counted (second value))
    (hrest : ∀ values, Counted (rest values)) (hrun : ∀ a b values, Counted (run a b values)) :
    Answers arity (binaryRest first second rest run) := by
  intro operands haccepts
  have hlength := Nat.le_trans hleast (Arity.least_le haccepts)
  rcases operands with _ | ⟨a, _ | ⟨b, others⟩⟩
  · cases hlength
  · exact absurd hlength (by simp)
  · exact (hfirst a).bind fun _ => (hsecond b).bind fun _ => (hrest others).bind fun _ => hrun _ _ _

end Adapters

/-- A call of `RTOS` for more places behind the point than a text may have. -/
def asksTooLong (operator : Builtin) : List Value → Bool
  | [.number _, .number mode, .number places] =>
    operator.name == "RTOS" && decide (Strings.placesLimit mode < Numeric.toNat64 places)
  | _ => false

/-- What a call of an operator comes to: a value, or an error that is none about the number of
operands, unless it asks for too long a text. -/
def Settles (operator : Builtin) (operands : List Value) : Prop :=
  match operator.action with
  | .pure run =>
    if operator.asksTooLong operands then run operands = .error .overlong
    else ∃ result, run operands = halting result ∧ Counted result
  | .edit run => ∀ drawing, Counted (run operands drawing).1
  | .input ask => ∀ drawing, Counted (ask operands drawing)
  | .control control => control.Served operands

/-- Calls with an accepted number of operands come to an end of their own. -/
def Settled (operator : Builtin) : Prop :=
  ∀ operands, operator.arity.accepts operands.length → operator.Settles operands

theorem settled_function {name : String} {arity : Arity} {run : List Value → Except Error Value}
    (hname : name ≠ "RTOS") (h : Answers arity run) : Settled (function name arity run) := by
  intro operands haccepts
  have hshort : (function name arity run).asksTooLong operands = false := by
    unfold asksTooLong
    split
    · simp [function, hname]
    · rfl
  unfold Settles
  change if (function name arity run).asksTooLong operands then _ else _
  rw [hshort]
  exact ⟨run operands, rfl, h operands haccepts⟩

section Tables

open Arithmetic Comparison DraftLisp.Builtin.Lists Strings Selections

theorem counted_divideAll (divide : Float → Float → Float) (first : Float) (rest : List Float) :
    Counted (divideAll divide first rest) := by
  unfold divideAll
  induction rest generalizing first with
  | nil => exact .ok first
  | cons divisor rest ih =>
      rw [List.foldlM_cons]
      refine Counted.bind ?_ ih
      split
      · exact .error rfl
      · exact .ok _

theorem counted_squareRoot (x : Float) : Counted (squareRoot x) := by
  unfold squareRoot
  split
  · exact .error rfl
  · exact .ok _

theorem counted_logarithm (x : Float) : Counted (logarithm x) := by
  unfold logarithm
  split
  · exact .error rfl
  · exact .ok _

theorem counted_commonDivisor (a b : Float) : Counted (commonDivisor a b) := by
  unfold commonDivisor
  split
  · exact .ok _
  · exact .error rfl

section Numbers

variable {name : String} (hname : name ≠ "RTOS")

include hname

theorem settled_number (run : Float → Float) :
    Settled (function name (.exactly 1) (unary Value.expectNumber fun x => number (run x))) :=
  settled_function hname (answers_unary counted_expectNumber fun _ => .ok _)

theorem settled_numbers (arity : Arity) (run : List Float → Float) :
    Settled (function name arity (variadic numbers fun xs => number (run xs))) :=
  settled_function hname (answers_variadic counted_numbers fun _ => .ok _)

theorem settled_numbersFrom {arity : Arity} (hleast : 1 ≤ arity.least)
    (run : Float → List Float → Float) :
    Settled (function name arity
      (unaryRest Value.expectNumber numbers fun x rest => number (run x rest))) :=
  settled_function hname
    (answers_unaryRest hleast counted_expectNumber counted_numbers fun _ _ => .ok _)

theorem settled_divideAll (divide : Float → Float → Float) :
    Settled (function name (.atLeast 1) (unaryRest Value.expectNumber numbers fun x rest => do
      number (← divideAll divide x rest))) :=
  settled_function hname (answers_unaryRest (Nat.le_refl 1) counted_expectNumber counted_numbers
    fun _ _ => (counted_divideAll _ _ _).bind fun _ => .ok _)

end Numbers

theorem settled_arithmetic : ∀ operator ∈ arithmetic, operator.Settled := by
  simp only [arithmetic, List.forall_mem_cons]
  refine ⟨settled_numbers (by decide) _ _, settled_numbers (by decide) _ _,
    settled_numbers (by decide) _ _, settled_divideAll (by decide) _,
    settled_number (by decide) _, settled_number (by decide) _, settled_number (by decide) _,
    settled_function (by decide) (answers_unary counted_expectNumber counted_squareRoot),
    settled_function (by decide) (answers_binary counted_expectNumber counted_expectNumber
      fun _ _ => .ok _),
    settled_number (by decide) _,
    settled_function (by decide) (answers_unary counted_expectNumber counted_logarithm),
    settled_number (by decide) _, settled_number (by decide) _,
    settled_numbersFrom (by decide) (by decide) _, settled_divideAll (by decide) _,
    settled_number (by decide) _, settled_number (by decide) _,
    settled_numbersFrom (by decide) (by decide) _, settled_numbersFrom (by decide) (by decide) _,
    settled_function (by decide) (answers_binary counted_expectNumber counted_expectNumber
      counted_commonDivisor),
    settled_numbers (by decide) _ _, settled_numbers (by decide) _ _, by simp⟩

theorem counted_order (a b : Value) : Counted (order a b) := by
  unfold order
  split
  · split
    · exact .ok _
    · split
      · exact .ok _
      · split
        · exact .ok _
        · exact .error rfl
  · exact .ok _
  · exact .error rfl

theorem counted_chain (test : Ordering → Bool) (first : Value) (rest : List Value) :
    Counted (chain test first rest) := by
  induction rest generalizing first with
  | nil => exact .ok true
  | cons next rest ih =>
      refine (counted_order first next).bind fun found => ?_
      split
      · exact ih next
      · exact .ok false

theorem settled_comparison {name : String} (hname : name ≠ "RTOS") (test : Ordering → Bool) :
    Settled (comparison name test) :=
  settled_function hname (answers_unaryRest (Nat.le_refl 1) counted_anyValue counted_anyValues
    fun _ _ => (counted_chain _ _ _).bind fun _ => .ok _)

theorem settled_comparisons : ∀ operator ∈ comparisons, operator.Settled := by
  simp only [comparisons, List.forall_mem_cons]
  refine ⟨settled_comparison (by decide) _, settled_comparison (by decide) _,
    settled_comparison (by decide) _, settled_comparison (by decide) _,
    settled_comparison (by decide) _, settled_comparison (by decide) _,
    settled_function (by decide) (answers_binary counted_anyValue counted_anyValue
      fun _ _ => .ok _),
    settled_function (by decide) (answers_binaryRest (by decide) counted_anyValue counted_anyValue
      counted_numbers fun _ _ _ => .ok _),
    by simp⟩

theorem counted_car (list : Value) : Counted (car list) :=
  (counted_expectList list).bind fun _ => .ok _

theorem counted_cdr (list : Value) : Counted (cdr list) :=
  (counted_expectList list).bind fun _ => .ok _

theorem counted_append (lists : List Value) : Counted (append lists) :=
  (counted_mapM counted_expectList lists).bind fun _ => .ok _

section Lists

variable {name : String} (hname : name ≠ "RTOS")

include hname

theorem settled_listOperator {run : List Value → Except Error Value}
    (hrun : ∀ items, Counted (run items)) : Settled (listOperator name run) :=
  settled_function hname (answers_unary counted_expectList hrun)

theorem settled_path {path : Value → Except Error Value} (hpath : ∀ list, Counted (path list)) :
    Settled (function name (.exactly 1) (unary anyValue path)) :=
  settled_function hname (answers_unary counted_anyValue hpath)

/-- An operator on any value and a list. -/
theorem settled_search {run : Value → List Value → Value} :
    Settled (function name (.exactly 2) (binary anyValue Value.expectList fun item items =>
      .ok (run item items))) :=
  settled_function hname (answers_binary counted_anyValue counted_expectList fun _ _ => .ok _)

end Lists

theorem settled_lists : ∀ operator ∈ lists, operator.Settled := by
  simp only [lists, List.forall_mem_cons]
  refine ⟨settled_path (by decide) counted_car, settled_path (by decide) counted_cdr,
    settled_path (by decide) fun list => (counted_car list).bind counted_car,
    settled_path (by decide) fun list => (counted_cdr list).bind counted_car,
    settled_path (by decide) fun list => (counted_car list).bind counted_cdr,
    settled_path (by decide) fun list => (counted_cdr list).bind counted_cdr,
    settled_path (by decide) fun list =>
      (counted_cdr list).bind fun rest => (counted_cdr rest).bind counted_car,
    settled_function (by decide) (answers_variadic counted_anyValues fun _ => .ok _),
    settled_function (by decide) (answers_binary counted_anyValue counted_anyValue
      fun _ _ => .ok _),
    settled_function (by decide) (answers_variadic counted_anyValues counted_append),
    settled_listOperator (by decide) fun _ => .ok _,
    settled_function (by decide) (answers_binary counted_expectNumber counted_expectList
      fun _ _ => .ok _),
    settled_listOperator (by decide) fun _ => .ok _,
    settled_listOperator (by decide) fun _ => .ok _,
    settled_function (by decide) (answers_binary counted_anyValue counted_anyValue
      fun _ list => (counted_expectList list).bind fun _ => .ok _),
    settled_search (by decide),
    settled_function (by decide) (answers_ternary counted_anyValue counted_anyValue
      counted_anyValue fun _ _ list => (counted_expectList list).bind fun _ => .ok _),
    settled_search (by decide), settled_search (by decide), by simp⟩

theorem counted_substring (text : String) (start : Float) (length : List Float) :
    Counted (substring text start length) := by
  unfold substring
  split
  · exact .error rfl
  · simp only
    split
    · exact .ok _
    · split
      · exact .ok _
      · exact .error rfl

theorem counted_character (code : Float) : Counted (character code) := by
  unfold character
  simp only
  split
  · exact .ok _
  · exact .error rfl

theorem counted_readText (limit : Nat) (text : String) : Counted (Reader.readText limit text) := by
  unfold Reader.readText Token.tokenize
  cases Token.scan text.toList with
  | error fault => exact .error rfl
  | ok tokens =>
      change Counted (Reader.read limit tokens)
      unfold Reader.read
      cases Reader.forms limit tokens with
      | error fault => exact .error rfl
      | ok forms => exact .ok _

theorem counted_readData (text : String) : Counted (readData text) :=
  (counted_readText _ text).bind fun _ => .ok _

theorem eq_of_expectNumber {value : Value} {x : Float} (h : Value.expectNumber value = .ok x) :
    value = .number x := by
  cases value with
  | number y =>
      cases h
      rfl
  | _ => cases h

theorem eq_of_numbers {values : List Value} {xs : List Float} (h : numbers values = .ok xs) :
    values = xs.map .number := by
  unfold numbers at h
  induction values generalizing xs with
  | nil =>
      cases h
      rfl
  | cons value rest ih =>
      rw [List.mapM_cons] at h
      cases hvalue : Value.expectNumber value with
      | error error =>
          rw [hvalue] at h
          cases h
      | ok x =>
          cases hrest : rest.mapM Value.expectNumber with
          | error error =>
              rw [hvalue, hrest] at h
              cases h
          | ok others =>
              rw [hvalue, hrest] at h
              cases h
              rw [eq_of_expectNumber hvalue, ih hrest, List.map_cons]

theorem asksTooLong_iff {operator : Builtin} {operands : List Value} :
    operator.asksTooLong operands ↔ operator.name = "RTOS" ∧ ∃ x mode places,
      operands = [.number x, .number mode, .number places] ∧
        placesLimit mode < Numeric.toNat64 places := by
  unfold asksTooLong
  split
  · rename_i x mode places
    rw [Bool.and_eq_true, beq_iff_eq, decide_eq_true_iff]
    refine and_congr_right fun _ => ⟨fun h => ⟨x, mode, places, rfl, h⟩, ?_⟩
    rintro ⟨_, _, _, ⟨⟩, h⟩
    exact h
  · rename_i hshape
    refine iff_of_false (by simp) ?_
    rintro ⟨-, x, mode, places, rfl, -⟩
    exact hshape x mode places rfl

theorem not_placesLimit_lt_default (mode : Float) : ¬placesLimit mode < Numeric.toNat64 4.0 := by
  have hdefault : Numeric.toNat64 4.0 = 4 := by decide +kernel
  rw [hdefault, placesLimit]
  split <;> omega

theorem spellNumber_of_le {x : Float} {options : List Float}
    (h : ¬placesLimit (options.headD 2.0) < Numeric.toNat64 (options[1]?.getD 4.0)) :
    ∃ text, spellNumber x options = .ok (.string text) := by
  unfold spellNumber
  simp only [if_neg h]
  exact ⟨_, rfl⟩

/-- A number to spell and the options for it. -/
def numberFirst (first : Value) (rest : List Value) : Except Error (Float × List Float) := do
  return (← Value.expectNumber first, ← numbers rest)

theorem counted_numberFirst (first : Value) (rest : List Value) :
    Counted (numberFirst first rest) :=
  (counted_expectNumber first).bind fun _ => (counted_numbers rest).bind fun _ => .ok _

theorem eq_of_numberFirst {first : Value} {rest : List Value} {x : Float} {options : List Float}
    (h : numberFirst first rest = .ok (x, options)) :
    first = .number x ∧ rest = options.map .number := by
  unfold numberFirst at h
  cases hfirst : Value.expectNumber first with
  | error error =>
      rw [hfirst] at h
      cases h
  | ok y =>
      cases hrest : numbers rest with
      | error error =>
          rw [hfirst, hrest] at h
          cases h
      | ok others =>
          rw [hfirst, hrest] at h
          cases h
          exact ⟨eq_of_expectNumber hfirst, eq_of_numbers hrest⟩

theorem settled_spelling : Settled texts[7] := by
  intro operands haccepts
  have hlength : 1 ≤ operands.length ∧ operands.length ≤ 3 := by
    change ((Arity.between 1 3).broken? operands.length).isNone at haccepts
    unfold Arity.broken? at haccepts
    grind
  obtain _ | ⟨first, rest⟩ := operands
  · cases hlength.1
  change if texts[7].asksTooLong (first :: rest) then _ else
    ∃ result, (halting (numberFirst first rest) >>= fun read => spellNumber read.1 read.2) =
      _ ∧ _
  split
  · rename_i hlong
    obtain ⟨-, x, mode, places, hoperands, hplaces⟩ := asksTooLong_iff.mp hlong
    rw [hoperands]
    exact if_pos hplaces
  · rename_i hshort
    have hcounted := counted_numberFirst first rest
    rcases hread : numberFirst first rest with error | ⟨x, options⟩
    · rw [hread] at hcounted
      cases hcounted with
      | error h => exact ⟨.error error, rfl, .error h⟩
    · obtain ⟨rfl, rfl⟩ := eq_of_numberFirst hread
      have hplaces :
          ¬placesLimit (options.headD 2.0) < Numeric.toNat64 (options[1]?.getD 4.0) := by
        obtain _ | ⟨mode, _ | ⟨places, _ | ⟨other, others⟩⟩⟩ := options
        · exact not_placesLimit_lt_default _
        · exact not_placesLimit_lt_default _
        · exact fun hplaces =>
            hshort (asksTooLong_iff.mpr ⟨rfl, x, mode, places, rfl, hplaces⟩)
        · simp only [List.length_cons, List.length_map] at hlength
          omega
      obtain ⟨text, htext⟩ := spellNumber_of_le hplaces
      exact ⟨.ok (.string text), htext, .ok _⟩

theorem settled_texts : ∀ operator ∈ texts, operator.Settled := by
  have hspelling := settled_spelling
  simp only [texts, List.forall_mem_cons]
  refine ⟨settled_function (by decide) (answers_variadic counted_strings fun _ => .ok _),
    settled_function (by decide) (answers_variadic counted_strings fun _ => .ok _),
    settled_function (by decide) (answers_binaryRest (by decide) counted_expectString
      counted_expectNumber counted_numbers counted_substring),
    settled_function (by decide) (answers_unaryRest (by decide) counted_expectString
      counted_anyValues fun _ _ => .ok _),
    settled_function (by decide) (answers_unary counted_expectString fun _ => .ok _),
    settled_function (by decide) (answers_unary counted_expectString fun _ => .ok _),
    settled_function (by decide) (answers_unary counted_expectNumber fun _ => .ok _),
    hspelling,
    settled_function (by decide) (answers_unary counted_expectNumber counted_character),
    settled_function (by decide) (answers_unary counted_expectString fun _ => .ok _),
    settled_function (by decide) (answers_binaryRest (by decide) counted_expectString
      counted_expectString counted_numbers fun _ _ _ => .ok _),
    settled_function (by decide) (answers_unary counted_anyValue fun _ => .ok _),
    settled_function (by decide) (answers_unary counted_expectString counted_readData), by simp⟩

theorem settled_predicate {name : String} (hname : name ≠ "RTOS") (test : Value → Bool) :
    Settled (predicate name test) :=
  settled_function hname (answers_unary counted_anyValue fun _ => .ok _)

theorem settled_predicates : ∀ operator ∈ predicates, operator.Settled := by
  simp only [predicates, List.forall_mem_cons]
  refine ⟨settled_predicate (by decide) _, settled_predicate (by decide) _,
    settled_predicate (by decide) _, settled_predicate (by decide) _,
    settled_predicate (by decide) _,
    settled_function (by decide) (answers_unary counted_expectNumber fun _ => .ok _),
    settled_function (by decide) (answers_unary counted_expectNumber fun _ => .ok _),
    settled_function (by decide) (answers_unary counted_anyValue fun _ => .ok _), by simp⟩

theorem counted_add (operands : List Value) : Counted (add operands) := by
  fun_cases add operands with
  | case1 => exact .ok _
  | case2 entity => exact (counted_expectEntity entity).bind fun _ => .ok _
  | case3 entity set rest =>
      exact (counted_expectEntity entity).bind fun _ =>
        (counted_expectSelection set).bind fun _ => .ok _

theorem settled_selections : ∀ operator ∈ selections, operator.Settled := by
  simp only [selections, List.forall_mem_cons]
  refine ⟨settled_function (by decide) (answers_unary counted_expectSelection fun _ => .ok _),
    settled_function (by decide) (answers_binary counted_anyValue counted_expectNumber
      fun set _ => (counted_expectSelection set).bind fun _ => .ok _),
    settled_function (by decide) (answers_variadic counted_anyValues counted_add),
    settled_function (by decide) (answers_binary counted_expectEntity counted_anyValue
      fun _ set => (counted_expectSelection set).bind fun _ => .ok _),
    settled_function (by decide) (answers_binary counted_expectEntity counted_anyValue
      fun _ set => (counted_expectSelection set).bind fun _ => .ok _),
    by simp⟩

end Tables

end Builtin

end DraftLisp

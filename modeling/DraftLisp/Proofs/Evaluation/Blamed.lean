import DraftLisp.Proofs.Evaluation.Congruence

/-!
An evaluation is compared with one in which calls with a wrong number of operands end with another
error, and in which every call of a builtin operator names itself in the errors that leave it.
-/

namespace DraftLisp

namespace Arity

/-- The numbers of operands within the bounds. -/
def Admits : Arity → Nat → Prop
  | .exactly count, got => got = count
  | .atLeast count, got => count ≤ got
  | .between least most, got => least ≤ got ∧ got ≤ most
  | .any, _ => True

/-- The bound that a number of operands violates; the smaller number comes first. -/
inductive Violates : Arity → (bound got : Nat) → Prop
  | exactly {count got : Nat} : got ≠ count → Violates (.exactly count) count got
  | atLeast {count got : Nat} : got < count → Violates (.atLeast count) count got
  | least {least most got : Nat} : got < least → Violates (.between least most) least got
  | most {least most got : Nat} : least ≤ got → most < got →
    Violates (.between least most) most got

variable {arity : Arity} {bound got : Nat}

theorem check_of_admits (h : arity.Admits got) : arity.check got = .ok () := by
  have hbroken : arity.broken? got = none := by
    cases arity with
    | any => rfl
    | _ => grind [Admits, broken?]
  rw [check, hbroken]

theorem check_of_violates (h : arity.Violates bound got) :
    arity.check got = .error (.arity bound got none) := by
  have hbroken : arity.broken? got = some bound := by
    cases h <;> grind [broken?]
  rw [check, hbroken]

theorem admits_or_violates (arity : Arity) (got : Nat) :
    arity.Admits got ∨ ∃ bound, arity.Violates bound got := by
  cases arity with
  | exactly count =>
      exact (Decidable.em (got = count)).imp_right fun h => ⟨count, .exactly h⟩
  | atLeast count =>
      exact (Nat.lt_or_ge got count).symm.imp_right fun h => ⟨count, .atLeast h⟩
  | between least most =>
      rcases Nat.lt_or_ge got least with hleast | hleast
      · exact .inr ⟨least, .least hleast⟩
      · exact (Nat.lt_or_ge most got).symm.imp (⟨hleast, ·⟩) fun h => ⟨most, .most hleast h⟩
  | any => exact .inl trivial

theorem Violates.not_admits (h : arity.Violates bound got) : ¬arity.Admits got := by
  intro hadmits
  have hcheck := check_of_violates h
  rw [check_of_admits hadmits] at hcheck
  cases hcheck

theorem not_admits_iff : ¬arity.Admits got ↔ ∃ bound, arity.Violates bound got :=
  ⟨fun h => (arity.admits_or_violates got).resolve_left h, fun ⟨_, h⟩ => h.not_admits⟩

end Arity

/-- An error keeps the first name that it is given. -/
theorem Error.named_named (error : Error) (inner outer : String) :
    (error.named inner).named outer = error.named inner := by
  fun_cases Error.named inner error with
  | case1 => rfl
  | case2 error hanonymous =>
      unfold Error.named
      split
      · exact absurd rfl (hanonymous _ _)
      · rfl

namespace Run

/-- The run with an operator named in the error that it ends with. -/
def naming (operator : String) : Run α → Run α
  | .done outcome state => .done (namingHalt operator outcome) state
  | .waiting request state resume =>
    .waiting request state fun outcome => (resume outcome).naming operator

/-- The second run does what the first one does, as long as nobody answers with an error about a
number of operands. Where the first one ends with such an error, the second one ends with an error
that `R` puts in its place. -/
inductive Replaces (R : Error → Error → Prop) : Run α → Run α → Prop
  | same {outcome : Except Halt α} (state : State) :
    (∀ error, outcome = .error (.error error) → error.isArity = false) →
      Replaces R (.done outcome state) (.done outcome state)
  | replaced {error other : Error} (state : State) : R error other →
    Replaces R (.done (.error (.error error)) state) (.done (.error (.error other)) state)
  | waiting (request : Request) (state : State) {resume resume' : Settlement → Run α} :
    (∀ outcome, Builtin.Counted outcome → Replaces R (resume outcome) (resume' outcome)) →
      Replaces R (.waiting request state resume) (.waiting request state resume')

namespace Replaces

variable {R : Error → Error → Prop} {first second : Run α}

theorem value (value : α) (state : State) :
    Replaces R (.done (.ok value) state) (.done (.ok value) state) :=
  .same state nofun

theorem fail {error : Error} (h : error.isArity = false) (state : State) :
    Replaces R (.done (.error (.error error)) state : Run α)
      (.done (.error (.error error)) state) := by
  refine .same state fun other hother => ?_
  cases hother
  exact h

theorem bind {next next' : α → State → Run β} (h : Replaces R first second)
    (hnext : ∀ value state, Replaces R (next value state) (next' value state)) :
    Replaces R (first.bind next) (second.bind next') := by
  induction h with
  | @same outcome state hcounted =>
      rcases outcome with (error | _ | _) | value
      · exact fail (hcounted error rfl) state
      · exact .same state nofun
      · exact .same state nofun
      · exact hnext value state
  | replaced state h => exact .replaced state h
  | waiting request state _ ih => exact .waiting request state ih

theorem mapState (h : Replaces R first second) (change : State → State) :
    Replaces R (first.mapState change) (second.mapState change) := by
  induction h with
  | same state hcounted => exact .same (change state) hcounted
  | replaced state h => exact .replaced (change state) h
  | waiting request state _ ih => exact .waiting request (change state) ih

/-- The errors that are put in the place of others may be named. -/
theorem naming (h : Replaces R first second) (operator : String)
    (hnamed : ∀ error other, R error other → R error (other.named operator)) :
    Replaces R first (second.naming operator) := by
  induction h with
  | @same outcome state hcounted =>
      have hkept : namingHalt operator outcome = outcome := by
        rcases outcome with (error | _ | _) | value
        · exact congrArg (Except.error <| Halt.error ·)
            (Error.named_of_not_arity (hcounted error rfl) operator)
        · rfl
        · rfl
        · rfl
      rw [Run.naming, hkept]
      exact .same state hcounted
  | replaced state h => exact .replaced state (hnamed _ _ h)
  | waiting request state _ ih => exact .waiting request state ih

end Replaces

end Run

namespace Comp

def naming (operator : String) (comp : Comp α) : Comp α := fun state => (comp state).naming operator

/-- The second computation does what the first one does, but `R` puts other errors in the place of
those about a number of operands. -/
def Replaces (R : Error → Error → Prop) (first second : Comp α) : Prop :=
  ∀ state, (first state).Replaces R (second state)

variable {R : Error → Error → Prop}

theorem Replaces.bind {first first' : Comp α} {next next' : α → Comp β}
    (h : Replaces R first first')
    (hnext : ∀ value, Replaces R (next value) (next' value)) :
    Replaces R (first >>= next) (first' >>= next') := by
  intro state
  rw [bind_apply, bind_apply]
  exact (h state).bind fun value after => hnext value after

theorem replaces_edit {step : Edit α} (h : Builtin.CountedEdit step) :
    Replaces R (edit step) (edit step) := by
  intro state
  have hcounted := h state.drawing
  unfold edit
  rcases hstep : step state.drawing with ⟨error | value, drawing⟩
  · rw [hstep] at hcounted
    cases hcounted with
    | error h => exact .fail h _
  · exact .value value _

theorem replaces_request (wanted : Request) :
    Replaces R (request wanted) (request wanted) := by
  intro state
  refine .waiting wanted _ fun outcome hcounted => ?_
  cases hcounted with
  | ok value => exact .value value _
  | error h => exact .fail h _

/-- No law is about an error about a number of operands, so that `R` may be any relation. -/
def replaces (R : Error → Error → Prop) : Congruence where
  rel := Replaces R
  ready h state := by
    obtain ⟨value, after, hready⟩ := h state
    rw [hready]
    exact .value value after
  fail h state := .fail h state
  endless state := .same state nofun
  bind := Replaces.bind
  within frame h state := (h { state with frame }).mapState _
  observe_bind h state := h state state
  request := replaces_request
  edit := replaces_edit

theorem replaces_overlong :
    Replaces R (.halt .overlong : Comp α) (.halt .overlong) :=
  fun state => .same state nofun

end Comp

/-- What a call ends with in the place of the error about its number of operands. -/
abbrev Blame := Builtin → Error → Error

/-- The error of a call with a wrong number of operands, and what it ends with in its place. -/
inductive Blame.Replaced (blame : Blame) : Error → Error → Prop
  | call {operator : Builtin} {bound got : Nat} : operator ∈ Builtin.all →
    operator.arity.Violates bound got →
      Replaced blame (.arity bound got (some (Text.lower operator.name)))
        ((blame operator (.arity bound got none)).named operator.name)

theorem Blame.Replaced.named {blame : Blame} {error other : Error}
    (h : blame.Replaced error other) (operator : String) :
    blame.Replaced error (other.named operator) := by
  cases h with
  | call hmem hviolates =>
      rw [Error.named_named]
      exact .call hmem hviolates

open Value (nestingOf)

/-- Applying, where every call of a builtin operator names it in the error that it ends with. There
is room for calls that nest. -/
def applyBlaming (blame : Blame) (ev : Evaluator) :
    (room : Nat) → Nat → Callable → List Value → Comp Value
  | 0, level, callable, operands => apply ev level callable operands
  | room + 1, level, callable, operands =>
    match callable with
    | .builtin operator =>
      .naming operator.name <|
        match operator.arity.check operands.length with
        | .error error => .fail (blame operator error)
        | .ok () => applyWith ev (applyBlaming blame ev room) level (.builtin operator) operands
    | callable => apply ev level callable operands

/-- Applying with as much room as calls on these operands take up. -/
def callBlaming (blame : Blame) (ev : Evaluator) (level : Nat) (callable : Callable)
    (operands : List Value) : Comp Value :=
  applyBlaming blame ev (nestingOf operands + 1) level callable operands

/-- Evaluation, where every call of a builtin operator names it in the error that it ends with. -/
def evalBlaming (blame : Blame) (rounds limit : Nat) : (room : Nat) → Evaluator
  | 0, _, _ => .fail (.eval (.depth limit))
  | room + 1, 0, form =>
    let ev := evalBlaming blame rounds limit room
    evalFormWith rounds ev (callBlaming blame ev 1) form
  | room + 1, level + 1, form => evalBlaming blame rounds limit room level form

def evalProgramBlaming (blame : Blame) (rounds limit : Nat) (forms : List Form) : Comp Value :=
  evalBody (fun form => .within [] (evalBlaming blame rounds limit limit 0 form)) .nil forms

section Application

variable {blame : Blame} {ev : Evaluator}

/-- Room that is left over does not matter. -/
theorem applyBlaming_of_lt {operands : List Value} {room room' : Nat}
    (h : nestingOf operands < room) (h' : nestingOf operands < room') (level : Nat)
    (callable : Callable) :
    applyBlaming blame ev room level callable operands =
      applyBlaming blame ev room' level callable operands := by
  induction room generalizing room' level callable operands with
  | zero => omega
  | succ room ih =>
      obtain _ | room' := room'
      · omega
      cases callable with
      | builtin operator =>
          have hagain :
              applyWith ev (applyBlaming blame ev room) level (.builtin operator) operands =
                applyWith ev (applyBlaming blame ev room') level (.builtin operator) operands :=
            applyWith_congr (fun level callable inner hinner =>
              ih (by omega) (by omega) level callable) _ _
          rw [applyBlaming, applyBlaming, hagain]
      | _ => rfl

/-- The call names its operator in what its own check ends with and in what the calls within it end
with. -/
theorem callBlaming_builtin (blame : Blame) (ev : Evaluator) (level : Nat) (operator : Builtin)
    (operands : List Value) :
    callBlaming blame ev level (.builtin operator) operands =
      .naming operator.name
        (match operator.arity.check operands.length with
        | .error error => .fail (blame operator error)
        | .ok () => applyWith ev (callBlaming blame ev) level (.builtin operator) operands) := by
  have hagain : applyWith ev (applyBlaming blame ev (nestingOf operands)) level
      (.builtin operator) operands =
        applyWith ev (callBlaming blame ev) level (.builtin operator) operands :=
    applyWith_congr (fun level callable inner hinner =>
      applyBlaming_of_lt hinner (Nat.lt_succ_self _) level callable) _ _
  rw [callBlaming, applyBlaming, hagain]

theorem apply_of_violates {operator : Builtin} {operands : List Value} {bound : Nat}
    (h : operator.arity.Violates bound operands.length) (level : Nat) :
    apply ev level (.builtin operator) operands =
      .fail (.arity bound operands.length (some (Text.lower operator.name))) :=
  apply_of_check_error (Arity.check_of_violates h)

open DraftLisp.Comp

variable {ev' : Evaluator}
  (hev : ∀ level form, Comp.Replaces blame.Replaced (ev level form) (ev' level form))

include hev

theorem replaces_callBlaming (level : Nat) {callable : Callable} (hcallable : callable.Registered)
    (operands : List Value) :
    Comp.Replaces blame.Replaced (apply ev level callable operands)
      (callBlaming blame ev' level callable operands) := by
  induction hnesting : nestingOf operands using Nat.strongRecOn
    generalizing level callable operands with
  | ind nesting ih =>
      cases callable with
      | closure params body captured =>
          exact (replaces _).closure hev params body captured operands
      | function function => exact (replaces _).function hev function operands
      | builtin operator =>
          rw [callBlaming_builtin]
          rcases operator.arity.admits_or_violates operands.length with hadmits | ⟨bound, hviolates⟩
          · have hcheck := Arity.check_of_admits hadmits
            rw [hcheck]
            refine fun state => Run.Replaces.naming ?_ operator.name fun _ _ h => h.named _
            exact (replaces _).builtin hev hcallable hcheck (fun _ => replaces_overlong)
              (fun callable hregistered inner hinner =>
                ih _ (hnesting ▸ hinner) (level + 1) hregistered inner rfl) state
          · rw [apply_of_violates hviolates, Arity.check_of_violates hviolates]
            exact fun state => .replaced state (.call hcallable hviolates)

end Application

/-- Where an evaluation ends with an error about a number of operands, it was a call of the operator
that the error names, and all else is the same. -/
theorem replaces_eval (blame : Blame) (rounds limit room level : Nat) (form : Form) :
    Comp.Replaces blame.Replaced (eval rounds limit room level form)
      (evalBlaming blame rounds limit room level form) := by
  induction room generalizing level form with
  | zero => exact fun state => .fail rfl state
  | succ room ih =>
      cases level with
      | zero =>
          exact (Comp.replaces _).evalForm ih
            (fun callable hcallable operands => replaces_callBlaming ih 1 hcallable operands)
            rounds form
      | succ level => exact ih level form

theorem replaces_evalProgram (blame : Blame) (rounds limit : Nat) (forms : List Form) :
    Comp.Replaces blame.Replaced (evalProgram rounds limit forms)
      (evalProgramBlaming blame rounds limit forms) :=
  (Comp.replaces _).evalBody
    (fun form => (Comp.replaces _).within [] (replaces_eval blame rounds limit limit 0 form))
    .nil forms

end DraftLisp

import Mathlib.Data.Option.Basic
import DraftLisp.Proofs.Execution.Responses
import DraftLisp.Proofs.Execution.Session
import DraftLisp.Proofs.Form.Mentioned
import DraftLisp.Proofs.Simulation.Evaluation

namespace DraftLisp

/-- No list is empty, and every name is one that reads as the symbol of this name, at any depth. -/
inductive Value.Proper : Value → Prop
  | nil : Proper .nil
  | truth : Proper .truth
  | number (value : Float) : Proper (.number value)
  | string (text : String) : Proper (.string text)
  | symbol {name : String} : Token.IsName name → Proper (.symbol name)
  | list {items : List Value} : items ≠ [] → (∀ item ∈ items, Proper item) → Proper (.list items)
  | closure (identity : Nat) {params : List String} {body : List Form}
      {captured : Bindings Value} : (∀ param ∈ params, Token.IsName param) →
      (∀ form ∈ body, form.Speaks Token.IsName) → (∀ entry ∈ captured, Token.IsName entry.1) →
      (∀ entry ∈ captured, Proper entry.2) → Proper (.closure identity params body captured)
  | entity (id : EntityId) : Proper (.entity id)
  | selection (ids : List EntityId) : Proper (.selection ids)

/-- Only `nil` is false among proper values. -/
theorem Value.Proper.isTruthy_iff {value : Value} (h : value.Proper) :
    value.isTruthy ↔ value ≠ .nil := by
  cases h with
  | list hne _ => simpa [isTruthy, isNil] using hne
  | _ => simp [isTruthy, isNil]

structure Bindings.Proper (bindings : Bindings Value) : Prop where
  names : ∀ entry ∈ bindings, Token.IsName entry.1
  values : ∀ entry ∈ bindings, entry.2.Proper

namespace Bindings

theorem mem_put {bindings : Bindings α} {name : String} {value : α} {entry : String × α}
    (h : entry ∈ put name value bindings) : entry = (name, value) ∨ entry ∈ bindings := by
  induction bindings with
  | nil => exact .inl (by simpa [put] using h)
  | cons first rest ih =>
      obtain ⟨other, kept⟩ := first
      rw [put] at h
      split at h
      · rcases List.mem_cons.mp h with rfl | hrest
        · exact .inl rfl
        · exact .inr (.tail _ hrest)
      · rcases List.mem_cons.mp h with rfl | hrest
        · exact .inr (.head _)
        · exact (ih hrest).imp_right (.tail _)

namespace Proper

theorem nil : Proper [] := ⟨by simp, by simp⟩

variable {bindings lower : Bindings Value}

theorem put (h : bindings.Proper) {name : String} {value : Value} (hname : Token.IsName name)
    (hvalue : value.Proper) : (bindings.put name value).Proper := by
  constructor <;> intro entry hentry <;> rcases mem_put hentry with rfl | hentry
  · exact hname
  · exact h.names entry hentry
  · exact hvalue
  · exact h.values entry hentry

theorem overlay (h : bindings.Proper) (hlower : lower.Proper) :
    (bindings.overlay lower).Proper := by
  induction bindings with
  | nil => exact hlower
  | cons entry rest ih =>
      have hrest : Proper rest :=
        ⟨fun other hother => h.names other (.tail _ hother),
          fun other hother => h.values other (.tail _ hother)⟩
      exact (ih hrest).put (h.names entry (.head _)) (h.values entry (.head _))

theorem of_get? (h : bindings.Proper) {name : String} {value : Value}
    (hget : bindings.get? name = some value) : value.Proper :=
  h.values _ (mem_of_get? hget)

end Proper

end Bindings

structure Session.Proper (session : Session) : Prop where
  globals : session.globals.Proper
  /-- The names that always mean the same are never bound. -/
  reserved : ∀ name, (State.constant? name).isSome → session.globals.get? name = none
  functions : ∀ {name function}, session.functions.get? name = some function →
    Token.IsName name ∧ function.Speaks Token.IsName

structure State.Proper (state : State) : Prop extends state.toSession.Proper where
  frame : state.frame.Proper

namespace Simulation

/-- An evaluation beside itself, on proper values. -/
def proper : Simulation where
  spoken := Token.IsName
  empties := False
  endless := True
  cuts _ := False
  values value other := value.Proper ∧ value = other
  frames frame other := frame.Proper ∧ frame = other
  globals globals other :=
    (globals.Proper ∧ ∀ name, (State.constant? name).isSome → globals.get? name = none) ∧
      globals = other

theorem forall₂_proper_iff {items others : List Value} :
    List.Forall₂ proper.values items others ↔ (∀ item ∈ items, item.Proper) ∧ items = others := by
  rw [proper, List.forall₂_and_left, List.forall₂_eq_eq_eq]

theorem proper_iff_lift {value other : Value} :
    proper.values value other ↔ value.Lift proper other := by
  constructor
  · rintro ⟨h, rfl⟩
    cases h with
    | nil => exact .nil
    | truth => exact .truth
    | number x => exact .number x
    | string text => exact .string text
    | symbol hname => exact .symbol hname
    | list hne hitems => exact .list hne (forall₂_proper_iff.mpr ⟨hitems, rfl⟩)
    | closure identity hparams hbody hnames hvalues =>
        exact .closure hparams hbody ⟨⟨hnames, hvalues⟩, rfl⟩
    | entity id => exact .entity id
    | selection ids => exact .selection ids
  · intro h
    cases h with
    | nil => exact ⟨.nil, rfl⟩
    | truth => exact ⟨.truth, rfl⟩
    | number x => exact ⟨.number x, rfl⟩
    | string text => exact ⟨.string text, rfl⟩
    | symbol hname => exact ⟨.symbol hname, rfl⟩
    | list hne hitems =>
        obtain ⟨hproper, rfl⟩ := forall₂_proper_iff.mp hitems
        exact ⟨.list hne hproper, rfl⟩
    | closure hparams hbody hcaptured =>
        obtain ⟨hproper, rfl⟩ := hcaptured
        exact ⟨.closure _ hparams hbody hproper.names hproper.values, rfl⟩
    | entity id => exact ⟨.entity id, rfl⟩
    | selection ids => exact ⟨.selection ids, rfl⟩

theorem isName_typeName (value : Value) : Token.IsName value.typeName := by
  cases value <;> rw [Value.typeName] <;>
    exact Token.isName_of_plain (by decide) (by decide) rfl

theorem speaks_readText {limit : Nat} {text : String} {forms : List Form}
    (h : Reader.readText limit text = .ok forms) : ∀ form ∈ forms, form.Speaks Token.IsName := by
  refine Reader.speaks_of_readText Form.isName_quote h fun tokens htokens name hname => ?_
  unfold Token.tokenize at htokens
  split at htokens
  · rename_i hscan
    cases htokens
    exact Token.canonical_scan hscan _ hname
  · cases htokens

theorem lawful_proper : proper.Lawful where
  lift_iff := proper_iff_lift
  binding := by
    rintro frame _ globals _ name ⟨hframe, rfl⟩ ⟨⟨hglobals, -⟩, rfl⟩ -
    cases hvalue : (Bindings.get? frame name <|> Bindings.get? globals name) with
    | none => exact .none
    | some value =>
        refine .some ⟨?_, rfl⟩
        rcases (Option.orElse_eq_some _ _ _).mp hvalue with h | ⟨-, h⟩
        · exact hframe.of_get? h
        · exact hglobals.of_get? h
  frames_put := by
    rintro frame _ name value _ hname ⟨hvalue, rfl⟩ ⟨hframe, rfl⟩
    exact ⟨hframe.put hname hvalue, rfl⟩
  globals_put := by
    rintro globals _ name value _ hname hconstant ⟨hvalue, rfl⟩ ⟨⟨hglobals, hreserved⟩, rfl⟩
    refine ⟨⟨hglobals.put hname hvalue, fun other hother => ?_⟩, rfl⟩
    rw [Bindings.get?_put, if_neg]
    · exact hreserved other hother
    · rintro rfl
      simp [hconstant] at hother
  snapshot := by
    rintro frame _ globals _ ⟨hframe, rfl⟩ ⟨⟨hglobals, -⟩, rfl⟩
    exact ⟨hframe.overlay hglobals, rfl⟩
  spoken_truth := Token.isName_of_plain (by decide) (by decide) rfl
  spoken_nil := isName_typeName .nil
  spoken_typeName := isName_typeName
  spoken_read _ _ _ h := speaks_readText h

theorem states_proper_iff {state other : State} :
    proper.States state other ↔ state.Proper ∧ state = other := by
  constructor
  · intro h
    obtain ⟨⟨globals, functions, drawing, nextClosure⟩, frame⟩ := state
    obtain ⟨⟨globals', functions', drawing', nextClosure'⟩, frame'⟩ := other
    obtain ⟨⟨hframe, rfl⟩, ⟨⟨hglobals, hreserved⟩, rfl⟩, rfl, hspeaks, rfl, rfl⟩ := h
    exact ⟨⟨⟨hglobals, hreserved, hspeaks⟩, hframe⟩, rfl⟩
  · rintro ⟨h, rfl⟩
    exact ⟨⟨h.frame, rfl⟩, ⟨⟨h.globals, h.reserved⟩, rfl⟩, rfl, h.functions, rfl, rfl⟩

end Simulation

open Classical in
/-- Evaluates as long as the state and the value are proper; otherwise it goes on with `refuse`. -/
noncomputable def Comp.checked (refuse body : Comp Value) : Comp Value := fun state =>
  if state.Proper then
    (body state).bind fun value after =>
      if value.Proper ∧ after.Proper then .done (.ok value) after else refuse after
  else refuse state

/-- Evaluation that checks the state before every form and the state and the value behind it. -/
noncomputable def evalChecked (refuse : Comp Value) (rounds limit : Nat) :
    (room : Nat) → Evaluator
  | 0, _, _ => .fail (.eval (.depth limit))
  | room + 1, 0, form =>
      .checked refuse (evalForm rounds (evalChecked refuse rounds limit room) form)
  | room + 1, level + 1, form => evalChecked refuse rounds limit room level form

noncomputable def evalProgramChecked (refuse : Comp Value) (rounds limit : Nat)
    (forms : List Form) : Comp Value :=
  evalBody (fun form => .within [] (evalChecked refuse rounds limit limit 0 form)) .nil forms

namespace Simulation

variable (refuse : Comp Value)

theorem Simulates.checked {body body' : Comp Value}
    (h : proper.Simulates proper.values body body') :
    proper.Simulates proper.values body (.checked refuse body') := by
  intro state other hstates
  obtain ⟨hstate, rfl⟩ := states_proper_iff.mp hstates
  unfold Comp.checked
  rw [if_pos hstate, ← Run.bind_pure (body state)]
  refine (h state state hstates).bind fun value other hvalue after after' hafter => ?_
  obtain ⟨hproper, rfl⟩ := hvalue
  obtain ⟨hstate', rfl⟩ := states_proper_iff.mp hafter
  rw [if_pos ⟨hproper, hstate'⟩]
  exact .value ⟨hproper, rfl⟩ hafter

theorem evaluates_evalChecked (rounds limit room level : Nat) :
    proper.Evaluates (eval rounds limit room level)
      (evalChecked refuse rounds limit room level) := by
  induction room generalizing level with
  | zero =>
      intro form _
      rw [eval, evalChecked]
      exact .fail (.refl _)
  | succ room ih =>
      intro form hform
      cases level with
      | zero =>
          rw [eval, evalChecked]
          exact (lawful_proper.simulates_evalForm (fun _ => ⟨rfl, trivial⟩) ih hform).checked refuse
      | succ level =>
          rw [eval, evalChecked]
          exact ih level form hform

theorem simulates_evalProgramChecked (rounds limit : Nat) {forms : List Form}
    (hforms : ∀ form ∈ forms, form.Speaks Token.IsName) :
    proper.Simulates proper.values (evalProgram rounds limit forms)
      (evalProgramChecked refuse rounds limit forms) :=
  have hempty : proper.frames [] [] := ⟨.nil, rfl⟩
  simulates_evalBody (fun form hform =>
    (evaluates_evalChecked refuse rounds limit limit 0 form (hforms form hform)).within hempty)
    lawful_proper.nil

theorem eq_of_standings_proper {standing other : Standing Value}
    (h : proper.Standings proper.values standing other) : standing = other := by
  cases h with
  | ended hending hstates =>
      rw [hending.eq fun _ _ hvalue => hvalue.2, (states_proper_iff.mp hstates).2]
  | cut state other hcuts => exact hcuts.elim
  | asking request hstates => rw [(states_proper_iff.mp hstates).2]

end Simulation

/-- Proper sessions and proper values. -/
def propriety : Invariant := ⟨Session.Proper, Value.Proper⟩

open Simulation

theorem throughout_of_matches {run other : Run Value} (h : proper.Matches proper.values run other) :
    run.Throughout propriety := by
  induction h with
  | value hvalue hstates =>
      exact ⟨(states_proper_iff.mp hstates).1.toProper, Invariant.fits_ok hvalue.1⟩
  | halt _ hstates => exact ⟨(states_proper_iff.mp hstates).1.toProper, Invariant.fits_error _⟩
  | cut _ _ hcuts => exact hcuts.elim
  | waiting hstates _ ih =>
      refine ⟨(states_proper_iff.mp hstates).1.toProper, fun outcome hfits => ih outcome outcome ?_⟩
      exact .of_self fun value hvalue => ⟨hfits value hvalue, rfl⟩

namespace Interpreter

/-- The evaluation of a script that checks all states and values on its way. -/
noncomputable def evaluationChecked (refuse : Comp Value) (interpreter : Interpreter)
    (source : String) : Comp Value :=
  match interpreter.parse source with
  | .ok forms =>
    evalProgramChecked refuse interpreter.config.rounds interpreter.config.evalDepth forms
  | .error error => .fail error

theorem simulates_evaluation_proper (interpreter : Interpreter) (source : String) :
    proper.Simulates proper.values (interpreter.evaluation source)
      (interpreter.evaluation source) := by
  unfold evaluation
  split
  · rename_i forms hparse
    exact lawful_proper.simulates_evalProgram (fun _ => ⟨rfl, trivial⟩) (Nat.le_refl _) (.inl rfl)
      ⟨.nil, rfl⟩ (speaks_readText hparse)
  · exact .fail (.refl _)

theorem simulates_evaluationChecked (refuse : Comp Value) (interpreter : Interpreter)
    (source : String) :
    proper.Simulates proper.values (interpreter.evaluation source)
      (interpreter.evaluationChecked refuse source) := by
  unfold evaluation evaluationChecked
  cases hparse : interpreter.parse source with
  | ok forms => exact simulates_evalProgramChecked refuse _ _ (speaks_readText hparse)
  | error error => exact .fail (.refl _)

end Interpreter

theorem Session.Proper.start {session : Session} (h : session.Proper) :
    State.Proper { session with frame := [] } :=
  ⟨h, .nil⟩

theorem kept_propriety : propriety.Kept where
  empty := ⟨.nil, fun _ _ => rfl, fun h => nomatch h⟩
  logged _ _ h := ⟨h.globals, h.reserved, h.functions⟩
  nil := .nil
  answered kind raw := by
    have houtcomes := lawful_proper.outcomes_settlement kind (.answer raw)
    cases houtcomes with
    | ok h => exact h.1
  evaluated interpreter source h :=
    throughout_of_matches (interpreter.simulates_evaluation_proper source _ _
      (states_proper_iff.mpr ⟨Session.Proper.start h, rfl⟩))

/-- At every point of every session the variables and functions are proper and the constants are not
bound, and the values that scripts receive and return are proper, so that only `nil` is false. The
next script comes across nothing that is not proper on its way: whatever the user responds, checking
every state and value around every form makes no difference. -/
theorem proper_session (config : Config) (batches : List Batch) (last : Batch) :
    let execution := last.run ((Interpreter.new config).afterBatches batches)
    let interpreter := execution.interpreter
    interpreter.session.Proper ∧
      (∀ value, execution.task = .ended (.ok value) → value.Proper) ∧
      (∀ ticket value, interpreter.broker.settled.lookup ticket = some (.ok value) →
        value.Proper) ∧
      (∀ value : Value, value.Proper → (value.isTruthy ↔ value ≠ .nil)) ∧
      ∀ refuse source responses,
        ((interpreter.evaluationChecked refuse source
          { interpreter.session with frame := [] }).answered responses).standing =
        ((interpreter.evaluation source
          { interpreter.session with frame := [] }).answered responses).standing := by
  intro execution interpreter
  have hholds := Invariant.holdsOf_session kept_propriety config batches last
  refine ⟨hholds.session, ?_, ?_, fun _ => Value.Proper.isTruthy_iff, ?_⟩
  · intro value htask
    have hfits := hholds.task
    rw [htask] at hfits
    exact hfits value rfl
  · intro ticket value hlookup
    exact hholds.settled ticket _ hlookup value rfl
  · intro refuse source responses
    have hstates := states_proper_iff.mpr ⟨Session.Proper.start hholds.session, rfl⟩
    have hmatches := interpreter.simulates_evaluationChecked refuse source _ _ hstates
    have hstandings := (lawful_proper.matches_answered hmatches responses).standing
    exact (eq_of_standings_proper hstandings).symm

end DraftLisp

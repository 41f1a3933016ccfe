import DraftLisp.Proofs.Execution.Responses
import DraftLisp.Proofs.Simulation.Evaluation

namespace DraftLisp

namespace Simulation

/-- Runs that are the same as long as the first one is not cut off at its limit. -/
def deepening (limit : Nat) : Simulation where
  spoken _ := True
  empties := True
  endless := True
  cuts reason := reason = .error (.eval (.depth limit))
  values := Eq
  frames := Eq
  globals := Eq

theorem eq_iff_lift_deepening {limit : Nat} {value other : Value} :
    value = other ↔ value.Lift (deepening limit) other := by
  constructor
  · rintro rfl
    cases value with
    | nil => exact .nil
    | truth => exact .truth
    | number x => exact .number x
    | string text => exact .string text
    | symbol name => exact .symbol trivial
    | list items => exact .list (fun _ => trivial) (List.forall₂_same.mpr fun _ _ => rfl)
    | closure identity params body captured =>
        exact .closure (fun _ _ => trivial) (fun _ _ _ _ => trivial) rfl
    | entity id => exact .entity id
    | selection ids => exact .selection ids
  · intro h
    cases h with
    | list _ hitems =>
        rw [deepening, List.forall₂_eq_eq_eq] at hitems
        rw [hitems]
    | closure _ _ hcaptured =>
        obtain rfl : _ = _ := hcaptured
        rfl
    | _ => rfl

theorem lawful_deepening (limit : Nat) : (deepening limit).Lawful where
  lift_iff := eq_iff_lift_deepening
  binding := by
    rintro frame _ globals _ name rfl rfl -
    cases Bindings.get? frame name <|> Bindings.get? globals name with
    | none => exact .none
    | some value => exact .some rfl
  frames_put := by
    rintro frame _ name value _ - rfl rfl
    rfl
  globals_put := by
    rintro globals _ name value _ - - rfl rfl
    rfl
  snapshot := by
    rintro frame _ globals _ rfl rfl
    rfl
  spoken_truth := trivial
  spoken_nil := trivial
  spoken_typeName _ := trivial
  spoken_read _ _ _ _ _ _ _ _ := trivial

theorem eq_of_states {limit : Nat} {state other : State}
    (h : (deepening limit).States state other) : state = other := by
  obtain ⟨⟨globals, functions, drawing, nextClosure⟩, frame⟩ := state
  obtain ⟨⟨globals', functions', drawing', nextClosure'⟩, frame'⟩ := other
  obtain ⟨rfl, rfl, rfl, -, rfl, rfl⟩ := h
  rfl

end Simulation

/-- The run has ended with the error of a limit on the depth. -/
def Standing.TooDeep (standing : Standing α) : Prop :=
  ∃ limit state, standing = .ended (.error (.error (.eval (.depth limit)))) state

theorem Standing.not_tooDeep_ok (value : α) (state : State) :
    ¬(Standing.ended (.ok value) state).TooDeep := by
  rintro ⟨limit, other, hstanding⟩
  cases hstanding

theorem Standing.TooDeep.mapState {standing : Standing α} (h : standing.TooDeep)
    (change : State → State) : (standing.mapState change).TooDeep := by
  obtain ⟨limit, state, rfl⟩ := h
  exact ⟨limit, change state, rfl⟩

section

open Simulation

variable {limit : Nat}

theorem eq_of_standings {standing other : Standing Value}
    (h : (deepening limit).Standings Eq standing other) (hdeep : ¬standing.TooDeep) :
    other = standing := by
  cases h with
  | ended hending hstates => rw [hending.eq fun _ _ => id, eq_of_states hstates]
  | cut state other hcuts =>
      obtain rfl : _ = Halt.error (.eval (.depth limit)) := hcuts
      exact (hdeep ⟨limit, state, rfl⟩).elim
  | asking request hstates => rw [eq_of_states hstates]

/-- A run that is not cut off stands where the other one stands. -/
theorem standing_eq_of_simulates {first second : Comp Value}
    (h : (deepening limit).Simulates Eq first second) (state : State) (responses : List Response)
    (hdeep : ¬((first state).answered responses).standing.TooDeep) :
    ((second state).answered responses).standing =
      ((first state).answered responses).standing := by
  have hstates : (deepening limit).States state state :=
    ⟨rfl, rfl, rfl, fun _ => ⟨trivial, trivial, fun _ _ => trivial, fun _ _ _ _ => trivial⟩, rfl,
      rfl⟩
  have hmatches := (lawful_deepening limit).matches_answered (h state state hstates) responses
  exact eq_of_standings hmatches.standing hdeep

theorem simulates_eval_deepening (rounds : Nat) {least most : Nat} (h : least ≤ most) (level : Nat)
    (form : Form) :
    (deepening least).Simulates Eq (eval rounds least least level form)
      (eval rounds most most level form) :=
  (lawful_deepening least).simulates_eval (fun _ => ⟨rfl, trivial⟩) h (.inr rfl) level form
    fun _ _ => trivial

/-- A form that is not cut off stands the same wherever there is more room for its evaluation. -/
theorem standing_eq_of_room_le (rounds : Nat) {room more : Nat} (h : room ≤ more) (level : Nat)
    (form : Form) (state : State) (responses : List Response)
    (hdeep : ¬((eval rounds limit room level form state).answered responses).standing.TooDeep) :
    ((eval rounds limit more level form state).answered responses).standing =
      ((eval rounds limit room level form state).answered responses).standing :=
  standing_eq_of_simulates
    ((lawful_deepening limit).simulates_eval (fun _ => ⟨rfl, trivial⟩) h (.inr rfl) level form
      fun _ _ => trivial)
    state responses hdeep

theorem simulates_evalProgram_deepening (rounds : Nat) {least most : Nat} (h : least ≤ most)
    (forms : List Form) :
    (deepening least).Simulates Eq (evalProgram rounds least forms)
      (evalProgram rounds most forms) :=
  (lawful_deepening least).simulates_evalProgram (fun _ => ⟨rfl, trivial⟩) h (.inr rfl) rfl
    fun _ _ _ _ => trivial

end

/-- A form or a program that a limit on the depth does not cut off makes the same requests, leaves
the same state and ends with the same value or error under every higher limit. -/
theorem standing_eq_of_limit_le (rounds : Nat) {least most : Nat} (h : least ≤ most)
    (state : State) (responses : List Response) :
    (∀ level form,
      ¬((eval rounds least least level form state).answered responses).standing.TooDeep →
        ((eval rounds most most level form state).answered responses).standing =
          ((eval rounds least least level form state).answered responses).standing) ∧
      ∀ forms, ¬((evalProgram rounds least forms state).answered responses).standing.TooDeep →
        ((evalProgram rounds most forms state).answered responses).standing =
          ((evalProgram rounds least forms state).answered responses).standing :=
  ⟨fun level form =>
    standing_eq_of_simulates (simulates_eval_deepening rounds h level form) state responses,
    fun forms =>
    standing_eq_of_simulates (simulates_evalProgram_deepening rounds h forms) state responses⟩

/-- Assigns a choice between two texts: three levels, the innermost one for the test. -/
def assignsChoice : Form :=
  .list [.symbol "SETQ", .symbol "Y",
    .list [.symbol "IF", .symbol "X", .string "far", .string "near"]]

def boundX : State := { Session.empty with frame := [("X", .truth)] }

theorem standing_assignsChoice :
    ((eval 1 3 3 0 assignsChoice boundX).answered []).standing =
      .ended (.ok (.string "far"))
        { boundX with globals := [("Y", .string "far")] } :=
  rfl

/-- Three levels are just enough for a choice that is assigned. -/
theorem standing_eq_of_limit_le_choice :
    3 ≤ 9 ∧ ¬((eval 1 3 3 0 assignsChoice boundX).answered []).standing.TooDeep ∧
      ((eval 1 9 9 0 assignsChoice boundX).answered []).standing =
        ((eval 1 3 3 0 assignsChoice boundX).answered []).standing := by
  have hdeep : ¬((eval 1 3 3 0 assignsChoice boundX).answered []).standing.TooDeep := by
    rintro ⟨limit, state, hstanding⟩
    rw [standing_assignsChoice] at hstanding
    cases hstanding
  exact ⟨by decide, hdeep,
    (standing_eq_of_limit_le 1 (by decide) boundX []).1 0 assignsChoice hdeep⟩

end DraftLisp

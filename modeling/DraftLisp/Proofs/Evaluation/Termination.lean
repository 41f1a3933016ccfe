import DraftLisp.Interpreter
import DraftLisp.Proofs.Execution.Responses
import DraftLisp.Proofs.Form.Mentioned
import DraftLisp.Proofs.Form.RoundTrip
import DraftLisp.Proofs.Simulation.Evaluation
import DraftLisp.Proofs.Simulation.Likeness

/-!
A loop of the kind `WHILE` is the only one that can go on for ever, and no name comes into being
during an evaluation but out of data that `READ` reads.
-/

namespace DraftLisp

namespace Simulation

variable {S : Simulation} {α β : Type} {R : α → β → Prop}

/-- A run ends after finitely many responses, since it branches only over them. -/
theorem Lawful.ends_of_matches (hS : S.Lawful) (hcuts : ∀ reason, ¬S.cuts reason)
    (hendless : ¬S.endless) {run : Run α} {other : Run β} (h : S.Matches R run other)
    (responses : Nat → Response) :
    ∃ count outcome state,
      run.answered ((List.range count).map responses) = .done outcome state ∧
        outcome ≠ .error .endless := by
  induction h generalizing responses with
  | value _ _ => exact ⟨0, _, _, rfl, by simp⟩
  | halt h _ =>
      refine ⟨0, _, _, rfl, ?_⟩
      rintro ⟨⟩
      cases h with
      | endless h => exact hendless h
  | cut state run h => exact (hcuts _ h).elim
  | @waiting request state state' resume resume' _ _ ih =>
      obtain ⟨count, outcome, last, hdone, hne⟩ :=
        ih _ _ (hS.outcomes_settlement request.kind (responses 0)) fun i => responses (i + 1)
      refine ⟨count + 1, outcome, last, ?_, hne⟩
      rw [List.range_succ_eq_map, List.map_cons, List.map_map]
      exact hdone

end Simulation

/-- Values in which neither `WHILE` nor `READ` can be spoken of. -/
def loopless : Likeness :=
  ⟨fun name => name ≠ "WHILE" ∧ name ≠ "READ", fun _ => False, True, False⟩

theorem lawful_loopless : loopless.simulation.Lawful :=
  Likeness.lawful (by simp [loopless]) (by simp [loopless])
    (fun value => by cases value <;> simp [loopless, Value.typeName])
    fun hread => (hread.2 rfl).elim

namespace Interpreter

def start (config : Config) : State := { (new config).session with frame := [] }

theorem states_start (config : Config) :
    loopless.simulation.States (start config) (start config) where
  frame := ⟨fun _ hname => hname.elim, fun _ => .none⟩
  globals _ _ := .none
  functions := rfl
  speaks := by
    intro name function h
    cases h
  drawing := rfl
  nextClosure := rfl

theorem simulates_evaluation {interpreter : Interpreter} {source : String}
    (hsource : ∀ tokens, Token.tokenize source = .ok tokens →
      .symbol "WHILE" ∉ tokens ∧ .symbol "READ" ∉ tokens) :
    loopless.simulation.Simulates (Value.Alike loopless) (interpreter.evaluation source)
      (interpreter.evaluation source) := by
  unfold evaluation
  split
  · rename_i forms hparse
    have hquote : loopless.spoken "QUOTE" := by simp [loopless]
    have hforms : ∀ form ∈ forms, form.Speaks loopless.spoken := by
      refine Reader.speaks_of_readText hquote hparse fun tokens htokens name hname => ?_
      obtain ⟨hwhile, hread⟩ := hsource tokens htokens
      constructor
      · rintro rfl
        exact hwhile hname
      · rintro rfl
        exact hread hname
    have hempty : loopless.simulation.frames [] [] := ⟨fun _ hname => hname.elim, fun _ => .none⟩
    exact lawful_loopless.simulates_evalProgram (fun h => (h.1 rfl).elim) (Nat.le_refl _)
      (.inl rfl) hempty hforms
  · exact .fail (.refl _)

end Interpreter

open Interpreter in
/-- A script in which neither `WHILE` nor `READ` stands ends after finitely many responses, however
seldom a loop may go round, with a value, an error or a text that is too long. -/
theorem ends_of_loopless (config : Config) {source : String}
    (hsource : ∀ tokens, Token.tokenize source = .ok tokens →
      .symbol "WHILE" ∉ tokens ∧ .symbol "READ" ∉ tokens) (responses : Nat → Response) :
    ∃ count outcome state,
      ((new config).evaluation source (start config)).answered
          ((List.range count).map responses) = .done outcome state ∧
        ((∃ value, outcome = .ok value) ∨ (∃ error, outcome = .error (.error error)) ∨
          outcome = .error .overlong) := by
  obtain ⟨count, outcome, state, hdone, hne⟩ :=
    lawful_loopless.ends_of_matches (fun _ h => h) (fun h => h)
      (simulates_evaluation hsource _ _ (states_start config)) responses
  refine ⟨count, outcome, state, hdone, ?_⟩
  rcases outcome with (error | _ | _) | value
  · exact .inr (.inl ⟨error, rfl⟩)
  · exact .inr (.inr rfl)
  · exact (hne rfl).elim
  · exact .inl ⟨value, rfl⟩

/-- A script that asks for one digit more behind the point than a text may have. -/
def longText : String := "(rtos 1 2 65536)"

def longForm : Form := .list [.symbol "RTOS", .number 1.0, .number 2.0, .number 65536.0]

theorem scan_longText : Token.scan longText.toList =
    .ok [.opening, .symbol "RTOS", .number 1.0, .number 2.0, .number 65536.0, .closing] := by
  have hname : Token.ofAtom "rtos".toList = .symbol "RTOS" := by decide +kernel
  have hone : Token.ofAtom ['1'] = .number 1.0 := by decide +kernel
  have htwo : Token.ofAtom ['2'] = .number 2.0 := by decide +kernel
  have hplaces : Token.ofAtom "65536".toList = .number 65536.0 := by decide +kernel
  rw [← hname, ← hone, ← htwo, ← hplaces]
  exact Token.scan_cons rfl rfl (Token.scan_cons rfl rfl (Token.scan_cons rfl rfl
    (Token.scan_cons rfl rfl (Token.scan_cons rfl rfl (Token.scan_cons rfl rfl Token.scan_nil)))))

theorem spellNumber_longForm :
    Builtin.Strings.spellNumber 1.0 [2.0, 65536.0] = .error .overlong := by
  have hplaces : Builtin.Strings.placesLimit 2.0 < Numeric.toNat64 65536.0 := by decide +kernel
  unfold Builtin.Strings.spellNumber
  exact if_pos hplaces

theorem eval_longForm (rounds limit room : Nat) (state : State) :
    eval rounds limit (room + 2) 0 longForm state = .done (.error .overlong) state := by
  have hcallable : Callable.ofName state "RTOS" = .ok (.builtin Builtin.texts[7]) := rfl
  change evalApplication (eval rounds limit (room + 1)) (.symbol "RTOS")
    [.number 1.0, .number 2.0, .number 65536.0] state = _
  rw [← evalApplicationWith_apply, evalApplicationWith_eq rfl hcallable, apply_pure rfl rfl]
  change Comp.ofExcept (namingHalt "RTOS" (Builtin.Strings.spellNumber 1.0 [2.0, 65536.0]))
    state = _
  rw [spellNumber_longForm]
  rfl

theorem loopless_longText : ∀ tokens, Token.tokenize longText = .ok tokens →
    .symbol "WHILE" ∉ tokens ∧ .symbol "READ" ∉ tokens := by
  intro tokens htokens
  rw [Token.tokenize, scan_longText] at htokens
  cases htokens
  simp

section

open Interpreter

theorem evaluation_longForm :
    (new .default).evaluation longText (start .default) =
      .done (.error .overlong) (start .default) := by
  have hparse : (new .default).parse longText = .ok [longForm] :=
    Reader.readText_of_scan scan_longText rfl
  unfold evaluation
  rw [hparse]
  change (Comp.within [] (eval _ 1024 (1022 + 2) 0 longForm) >>= _) (start .default) = _
  rw [Comp.bind_apply, Comp.within, eval_longForm]
  rfl

/-- Although it has no loops, the script that asks for too long a text ends with neither a value
nor an error. -/
theorem evaluation_longText :
    (∀ tokens, Token.tokenize longText = .ok tokens →
      .symbol "WHILE" ∉ tokens ∧ .symbol "READ" ∉ tokens) ∧
      (new .default).evaluation longText (start .default) =
        .done (.error .overlong) (start .default) :=
  ⟨loopless_longText, evaluation_longForm⟩

/-- The script that asks for too long a text ends at once. -/
theorem ends_of_loopless_longText :
    (∀ tokens, Token.tokenize longText = .ok tokens →
      .symbol "WHILE" ∉ tokens ∧ .symbol "READ" ∉ tokens) ∧
      ∃ count outcome state,
        ((new .default).evaluation longText (start .default)).answered
            ((List.range count).map fun _ => Response.cancel) = .done outcome state ∧
          ((∃ value, outcome = .ok value) ∨ (∃ error, outcome = .error (.error error)) ∨
            outcome = .error .overlong) :=
  ⟨loopless_longText, ends_of_loopless .default loopless_longText fun _ => .cancel⟩

end

end DraftLisp

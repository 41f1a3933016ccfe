import Mathlib.Data.List.Induction
import DraftLisp.Interpreter
import DraftLisp.Proofs.Direct.Tape
import DraftLisp.Proofs.Form.Lines

namespace DraftLisp

variable {rounds limit : Nat}

theorem evalBody_append (ev : Form → Comp Value) (last : Value) (forms others : List Form) :
    evalBody ev last (forms ++ others) =
      evalBody ev last forms >>= fun value => evalBody ev value others := by
  induction forms generalizing last with
  | nil => exact (pure_bind last fun value => evalBody ev value others).symm
  | cons form rest ih =>
      change (ev form >>= fun value => evalBody ev value (rest ++ others)) =
        (ev form >>= fun value => evalBody ev value rest) >>= _
      rw [bind_assoc]
      exact congrArg (ev form >>= ·) (funext ih)

/-- The value given is the result only if there are no forms. -/
theorem evalBody_eq (ev : Form → Comp Value) (value : Value) (forms : List Form) :
    evalBody ev value forms =
      evalBody ev .nil forms >>= fun last => pure (if forms.isEmpty then value else last) := by
  cases forms with
  | nil => exact (pure_bind _ _).symm
  | cons form rest => exact (bind_pure _).symm

theorem evalProgram_append (forms others : List Form) :
    evalProgram rounds limit (forms ++ others) = do
      let value ← evalProgram rounds limit forms
      let last ← evalProgram rounds limit others
      return if others.isEmpty then value else last := by
  unfold evalProgram
  rw [evalBody_append]
  exact congrArg (evalBody _ .nil forms >>= ·) (funext fun value => evalBody_eq _ value others)

namespace Comp

/-- Plays a computation from a session, with responses that lie ready. -/
def played (comp : Comp α) (session : Session) (responses : List Response) :
    Except Stop α × Tape :=
  (comp { session with frame := [] }).playback responses []

end Comp

/-- The local variables of a top-level form are gone wherever it ends or waits. -/
theorem frame_playback_evalProgram (rounds limit : Nat) (forms : List Form) (state : State)
    (responses : List Response) (requests : List Request) :
    ((evalProgram rounds limit forms state).playback responses requests).2.state.frame =
      state.frame := by
  unfold evalProgram
  generalize Value.nil = last
  induction forms generalizing last state responses requests with
  | nil => rfl
  | cons form rest ih =>
      rw [evalBody, Comp.playback_bind, Comp.within, Run.playback_mapState]
      rcases (eval rounds limit limit 0 form { state with frame := [] }).playback responses requests
        with ⟨_ | value, tape⟩
      · rfl
      · exact ih _ tape.responses tape.requests value

/-- The second forms are evaluated in the session that the first ones have left, with the responses
that are left, unless the first ones stop. -/
theorem played_evalProgram_append (forms others : List Form) (session : Session)
    (responses : List Response) :
    (evalProgram rounds limit (forms ++ others)).played session responses =
      match (evalProgram rounds limit forms).played session responses with
      | (.ok value, tape) =>
        let (outcome, after) :=
          (evalProgram rounds limit others).played tape.state.toSession tape.responses
        (outcome.map fun last => if others.isEmpty then value else last,
          { after with requests := tape.requests ++ after.requests })
      | (.error stop, tape) => (.error stop, tape) := by
  have hframe :=
    frame_playback_evalProgram rounds limit forms { session with frame := [] } responses []
  unfold Comp.played
  rw [evalProgram_append, Comp.playback_bind]
  rcases hfirst :
    (evalProgram rounds limit forms { session with frame := [] }).playback responses []
    with ⟨_ | value, tape⟩
  · rfl
  · have hstate : tape.state = { tape.state.toSession with frame := [] } := by
      rw [hfirst] at hframe
      exact congrArg (State.mk tape.state.toSession) hframe
    dsimp only
    rw [Comp.playback_bind, ← hstate, Run.playback_requests]
    rcases (evalProgram rounds limit others tape.state).playback tape.responses [] with
      ⟨_ | last, after⟩ <;> rfl

/-- Forms that stop have been evaluated up to the one that stops. -/
theorem played_evalProgram_eq_error {forms : List Form} {session : Session}
    {responses : List Response} {stop : Stop} {tape : Tape}
    (h : (evalProgram rounds limit forms).played session responses = (.error stop, tape)) :
    ∃ before form behind value reached after, forms = before ++ form :: behind ∧
      (evalProgram rounds limit before).played session responses = (.ok value, reached) ∧
      (evalProgram rounds limit [form]).played reached.state.toSession reached.responses =
        (.error stop, after) ∧
      tape = { after with requests := reached.requests ++ after.requests } := by
  induction forms using List.reverseRecOn with
  | nil => cases h
  | append_singleton forms last ih =>
      rw [played_evalProgram_append] at h
      rcases hfirst : (evalProgram rounds limit forms).played session responses with
        ⟨stopped | value, reached⟩
      · rw [hfirst] at h
        obtain ⟨before, form, behind, value, reached, after, rfl, hparts⟩ := ih (hfirst.trans h)
        exact ⟨before, form, behind ++ [last], value, reached, after, by simp, hparts⟩
      · rw [hfirst] at h
        rcases hlast : (evalProgram rounds limit [last]).played reached.state.toSession
          reached.responses with ⟨stopped | value', after⟩
        · simp only [hlast] at h
          cases h
          exact ⟨forms, last, [], value, reached, after, rfl, hfirst, hlast, rfl⟩
        · simp only [hlast] at h
          cases h

namespace Interpreter

variable {interpreter : Interpreter} {first second : String} {forms others : List Form}

theorem evaluation_of_parse (h : interpreter.parse first = .ok forms) :
    interpreter.evaluation first =
      evalProgram interpreter.config.rounds interpreter.config.evalDepth forms := by
  unfold evaluation
  rw [h]

theorem played_evaluation_line (hfirst : interpreter.parse first = .ok forms)
    (hsecond : interpreter.parse second = .ok others) (session : Session)
    (responses : List Response) :
    (interpreter.evaluation (first ++ "\n" ++ second)).played session responses =
      match (interpreter.evaluation first).played session responses with
      | (.ok value, tape) =>
        let (outcome, after) :=
          (interpreter.evaluation second).played tape.state.toSession tape.responses
        (outcome.map fun last => if others.isEmpty then value else last,
          { after with requests := tape.requests ++ after.requests })
      | (.error stop, tape) => (.error stop, tape) := by
  have hjoined : interpreter.parse (first ++ "\n" ++ second) = .ok (forms ++ others) :=
    Reader.readText_line hfirst hsecond
  rw [evaluation_of_parse hjoined, evaluation_of_parse hfirst, evaluation_of_parse hsecond]
  exact played_evalProgram_append forms others session responses

theorem evaluation_line_refused {error : Error} (hfirst : interpreter.parse first = .ok forms)
    (hsecond : interpreter.parse second = .error error) :
    ∃ fault, interpreter.parse (first ++ "\n" ++ second) = .error fault ∧
      interpreter.evaluation (first ++ "\n" ++ second) = .fail fault := by
  obtain ⟨fault, hfault⟩ := Reader.readText_line_error hfirst hsecond
  have hjoined : interpreter.parse (first ++ "\n" ++ second) = .error fault := hfault
  refine ⟨fault, hjoined, ?_⟩
  unfold evaluation
  rw [hjoined]

/-- How a script of two texts goes, the first of which reads as some forms. -/
structure InParts (interpreter : Interpreter) (first second : String) (forms : List Form) :
    Prop where
  /-- Behind a first script that ends with a value, the second one is evaluated in the session and
  with the responses that are left. -/
  completed : ∀ others, interpreter.parse second = .ok others →
    ∀ session responses value tape,
      (interpreter.evaluation first).played session responses = (.ok value, tape) →
    ∀ outcome after,
      (interpreter.evaluation second).played tape.state.toSession tape.responses =
        (outcome, after) →
      (interpreter.evaluation (first ++ "\n" ++ second)).played session responses =
        (outcome.map fun last => if others.isEmpty then value else last,
          { after with requests := tape.requests ++ after.requests })
  /-- Where the first script stops, nothing of the second one is evaluated. -/
  stopped : ∀ others, interpreter.parse second = .ok others →
    ∀ session responses stop tape,
      (interpreter.evaluation first).played session responses = (.error stop, tape) →
      (interpreter.evaluation (first ++ "\n" ++ second)).played session responses =
        (.error stop, tape)
  /-- All that was done up to where the first script stops is kept. -/
  kept : ∀ session responses stop tape,
    (interpreter.evaluation first).played session responses = (.error stop, tape) →
    ∃ before form behind value reached after, forms = before ++ form :: behind ∧
      (evalProgram interpreter.config.rounds interpreter.config.evalDepth before).played session
        responses = (.ok value, reached) ∧
      (evalProgram interpreter.config.rounds interpreter.config.evalDepth [form]).played
        reached.state.toSession reached.responses = (.error stop, after) ∧
      tape = { after with requests := reached.requests ++ after.requests }
  /-- With a second text that cannot be read, nothing is evaluated at all. -/
  refused : ∀ error, interpreter.parse second = .error error →
    ∃ fault, interpreter.parse (first ++ "\n" ++ second) = .error fault ∧
      ∀ state, interpreter.evaluation (first ++ "\n" ++ second) state =
        .done (.error (.error fault)) state

/-- A script of two texts goes as the two scripts do one after the other. -/
theorem evaluates_in_parts (h : interpreter.parse first = .ok forms) (second : String) :
    InParts interpreter first second forms where
  completed others hsecond session responses value tape hfirst outcome after hlast := by
    rw [played_evaluation_line h hsecond, hfirst]
    simp only [hlast]
  stopped others hsecond session responses stop tape hfirst := by
    rw [played_evaluation_line h hsecond, hfirst]
  kept session responses stop tape hfirst := by
    rw [evaluation_of_parse h] at hfirst
    exact played_evalProgram_eq_error hfirst
  refused error hsecond := by
    obtain ⟨fault, hparse, hevaluation⟩ := evaluation_line_refused h hsecond
    exact ⟨fault, hparse, fun state => congrFun hevaluation state⟩

/-- A script that asks the user, and a second one that is only a comment. -/
theorem evaluates_in_parts_getint :
    (new .default).parse "(getint)" = .ok [.list [.symbol "GETINT"]] ∧
      InParts (new .default) "(getint)" "; no more" [.list [.symbol "GETINT"]] := by
  have hname : Token.ofAtom ['g', 'e', 't', 'i', 'n', 't'] = .symbol "GETINT" := by decide +kernel
  have htokens : Token.tokenize "(getint)" = .ok [.opening, .symbol "GETINT", .closing] := by
    rw [Token.tokenize_eq_ok_iff, ← hname]
    exact Token.scan_cons rfl rfl (Token.scan_cons rfl rfl (Token.scan_cons rfl rfl Token.scan_nil))
  have hparse : (new .default).parse "(getint)" = .ok [.list [.symbol "GETINT"]] :=
    Reader.readText_eq_ok_iff.mpr ⟨_, htokens, rfl⟩
  exact ⟨hparse, evaluates_in_parts hparse "; no more"⟩

end Interpreter

end DraftLisp

import DraftLisp.Console
import DraftLisp.Proofs.Builtin.Answers
import DraftLisp.Proofs.Direct.Playback
import DraftLisp.Proofs.Execution.Growth

namespace DraftLisp

namespace Execution

/-- The execution is where a run is. If the run waits, its request is the open one. -/
inductive At (execution : Execution) : Run Value → Prop
  | ended {outcome : Except Halt Value} {state : State} (htask : execution.task = .ended outcome)
      (hsession : execution.interpreter.session = state.toSession) :
      execution.At (.done outcome state)
  | waiting {ticket : Ticket} {request : Request} {state : State} {resume : Settlement → Run Value}
      (htask : execution.task = .waiting ticket resume)
      (hsession : execution.interpreter.session = state.toSession)
      (hslot : execution.interpreter.broker.slot = some (ticket, request)) :
      execution.At (.waiting request state resume)

theorem at_advance (interpreter : Interpreter) (run : Run Value) :
    At ⟨(interpreter.advance run).1, (interpreter.advance run).2⟩ run := by
  cases run with
  | done outcome state => exact .ended rfl rfl
  | waiting request state resume => exact .waiting rfl rfl rfl

variable {execution : Execution} {run : Run Value}

theorem At.standing (h : execution.At run) : execution.standing = run.step := by
  cases h with
  | @ended outcome state htask hsession =>
      cases outcome <;> simp [Execution.standing, htask, Run.step]
  | waiting htask hsession hslot =>
      simp [Execution.standing, htask, Broker.pending, hslot, Run.step]

theorem At.session (h : execution.At run) :
    execution.interpreter.session = run.state.toSession := by
  cases h with
  | ended htask hsession => exact hsession
  | waiting htask hsession hslot => exact hsession

/-- When its request is settled, a script goes on with the outcome. -/
theorem At.settle {request : Request} {state : State} {resume : Settlement → Run Value}
    (h : execution.At (.waiting request state resume)) (outcome : Request → Settlement) :
    (execution.onBroker (·.settle outcome)).poll.At (resume (outcome request)) := by
  obtain ⟨interpreter, task⟩ := execution
  cases h with
  | @waiting ticket _ _ _ htask hsession hslot =>
      obtain rfl : task = .waiting ticket resume := htask
      obtain ⟨broker, hpoll⟩ := Broker.poll_settle_of_slot hslot outcome
      have hnext : (onBroker (·.settle outcome) ⟨interpreter, .waiting ticket resume⟩).poll =
          ⟨({ interpreter with broker }.advance (resume (outcome request))).1,
            ({ interpreter with broker }.advance (resume (outcome request))).2⟩ := by
        simp [onBroker, Execution.poll, Interpreter.poll, hpoll]
      rw [hnext]
      exact at_advance _ _

/-- The execution is where some outcomes have led a script. -/
inductive Led (execution : Execution) (run : Run Value) : Prop
  | intro (interpreter : Interpreter) (source : String) (received : List Settlement)
      (hrun : (interpreter.script source).follow received = run) (hat : execution.At run)

theorem led_start (interpreter : Interpreter) (source : String) :
    (start interpreter source).poll.Led (interpreter.script source) :=
  .intro interpreter source [] rfl (at_advance interpreter (interpreter.script source))

theorem Led.settle {request : Request} {state : State} {resume : Settlement → Run Value}
    (h : execution.Led (.waiting request state resume)) (outcome : Request → Settlement) :
    (execution.onBroker (·.settle outcome)).poll.Led (resume (outcome request)) := by
  obtain ⟨interpreter, source, received, hrun, hat⟩ := h
  exact .intro interpreter source (received ++ [outcome request])
    (Run.follow_concat_of_waiting hrun _) (hat.settle outcome)

end Execution

namespace Console

def lines (console : Console) : List (String × LogStyle) :=
  console.interpreter.session.drawing.lines

/-- What the console does with an input: it tells something of its own accord, or it has gone on
with a script and deals with where that stands. -/
inductive Reaction where
  | ignores
  | tells (text : String) (mode : Mode)
  | runs (next : Next) (execution : Execution)

def Reaction.perform (console : Console) : Reaction → String × Console
  | .ignores => ("", console)
  | .tells text mode => (text, { console with mode })
  | .runs next execution => console.settle next execution.standing execution

/-- A script whose request gets a line, or the end of input, as its answer. -/
def replied (execution : Execution) : Option String → Execution
  | none => execution.abandon.2
  | some line =>
    if (Text.trimmed line).isEmpty then execution.abandon.2
    else (execution.answer (typedAnswer line)).2

def lineReaction (console : Console) (line : String) : Reaction :=
  match Text.trimmed line with
  | "" => .ignores
  | ":help" => .tells help console.mode
  | ":env" => .tells (environment console.interpreter) console.mode
  | ":entities" => .tells (entities console.interpreter.session.drawing) console.mode
  | ":builtins" => .tells builtins console.mode
  | ":quit" | ":exit" => .tells farewell (.closed 0)
  | source => .runs .line (Execution.start console.interpreter source).poll

def reaction (console : Console) (line : Option String) : Reaction :=
  match console.mode, line with
  | .closed _, _ => .ignores
  | .asking execution _ next, line => .runs next (replied execution line)
  | .reading, some line => console.lineReaction line
  | .reading, none => .tells farewell (.closed 0)

theorem answer_eq_perform (console : Console) (execution : Execution) (next : Next)
    (line : Option String) :
    console.answer execution next line =
      (Reaction.runs next (replied execution line)).perform console := by
  cases line with
  | none => rfl
  | some line =>
      unfold answer replied
      dsimp only
      split <;> rfl

theorem dialogueLine_eq_perform (console : Console) (line : String) :
    console.dialogueLine line = (console.lineReaction line).perform console := by
  unfold dialogueLine lineReaction
  generalize Text.trimmed line = typed
  split
  all_goals simp only [Reaction.perform]
  rfl

theorem feed_eq_perform (console : Console) (line : Option String) :
    console.feed line = (console.reaction line).perform console := by
  unfold feed reaction
  cases console.mode with
  | closed code => rfl
  | asking execution request next => exact answer_eq_perform console execution next line
  | reading =>
      cases line with
      | none => rfl
      | some line => exact dialogueLine_eq_perform console line

/-- The console before its script. -/
def fresh (options : Options) : Console :=
  ⟨.new { Config.default with echoResult := options.echo }, 0, .reading⟩

def opening (options : Options) : Reaction :=
  match options.script with
  | some script =>
    .runs (if options.interactive then .dialogue else .leave)
      (Execution.start (fresh options).interpreter script).poll
  | none => .tells banner .reading

theorem start_eq_perform (options : Options) :
    start options = (opening options).perform (fresh options) := by
  unfold start opening
  cases options.script <;> rfl

/-- Feeds inputs to the console; nothing stands for the end of input. -/
def playFrom (console : Console) : List (Option String) → String × Console
  | [] => ("", console)
  | line :: rest =>
    let (shown, console) := console.feed line
    let (others, console) := console.playFrom rest
    (shown ++ others, console)

/-- What the console has shown after some inputs, and how it stands. -/
def played (options : Options) (inputs : List (Option String)) : String × Console :=
  let (shown, console) := start options
  let (others, console) := console.playFrom inputs
  (shown ++ others, console)

section Transcripts

variable {console : Console}

theorem feed_of_exitCode? {code : Nat} (h : console.exitCode? = some code)
    (line : Option String) : console.feed line = ("", console) := by
  unfold exitCode? at h
  unfold feed
  split at h
  · rename_i hmode
    rw [hmode]
  · cases h

theorem playFrom_of_exitCode? {code : Nat} (h : console.exitCode? = some code)
    (inputs : List (Option String)) : console.playFrom inputs = ("", console) := by
  induction inputs with
  | nil => rfl
  | cons line rest ih =>
      unfold playFrom
      rw [feed_of_exitCode? h]
      simp [ih]

theorem playFrom_append (console : Console) (first second : List (Option String)) :
    console.playFrom (first ++ second) =
      ((console.playFrom first).1 ++ ((console.playFrom first).2.playFrom second).1,
        ((console.playFrom first).2.playFrom second).2) := by
  induction first generalizing console with
  | nil => simp [playFrom]
  | cons line rest ih => simp [playFrom, ih, String.append_assoc]

theorem feedAll_eq_playFrom (console : Console) (lines : List String) :
    console.feedAll lines = console.playFrom (lines.map some) := by
  induction lines generalizing console with
  | nil => rfl
  | cons line rest ih =>
      unfold feedAll
      cases hcode : console.exitCode? with
      | some code => rw [playFrom_of_exitCode? hcode]
      | none => simp [playFrom, ih]

theorem drain_eq_playFrom (console : Console) (rounds : Nat) :
    console.drain rounds = console.playFrom (List.replicate rounds none) := by
  induction rounds generalizing console with
  | zero => rfl
  | succ rounds ih =>
      unfold drain
      cases hcode : console.exitCode? with
      | some code => rw [playFrom_of_exitCode? hcode]
      | none => simp [playFrom, List.replicate_succ, ih]

/-- A transcript is what the console shows for the lines of a text and the end of input behind
them. -/
theorem transcript_eq_played (options : Options) (input : String) :
    ∃ rounds, transcript options input =
      let (shown, console) :=
        played options ((inputLines input).map some ++ List.replicate rounds none)
      (shown, console.exitCode?.getD 1) := by
  refine ⟨((start options).2.feedAll (inputLines input)).2.interpreter.config.rounds, ?_⟩
  simp [transcript, played, playFrom_append, feedAll_eq_playFrom, drain_eq_playFrom,
    String.append_assoc]

end Transcripts

/-- A script that takes an answer waits for one to its own request. -/
structure Sound (console : Console) : Prop where
  asking : ∀ execution request next, console.mode = .asking execution request next →
    execution.interpreter = console.interpreter ∧
      ∃ state resume, execution.Led (.waiting request state resume)

/-- A script is at most one that the console runs, and the log has grown with it. -/
inductive Reaction.Sound (console : Console) : Reaction → Prop
  | ignores : Sound console .ignores
  | tells {text : String} {mode : Mode} (hmode : console.mode = .reading)
      (hnext : mode = .reading ∨ mode = .closed 0) : Sound console (.tells text mode)
  | runs {next : Next} {execution : Execution} {run : Run Value}
      (hmode : ∀ code, console.mode ≠ .closed code) (hled : execution.Led run)
      (hlines : run.Extends console.lines) : Sound console (.runs next execution)

variable {console : Console}

theorem Sound.reply (h : console.Sound) {execution : Execution} {request : Request} {next : Next}
    (hmode : console.mode = .asking execution request next) (line : Option String) :
    (Reaction.runs next (replied execution line)).Sound console := by
  obtain ⟨hinterpreter, state, resume, hled⟩ := h.asking execution request next hmode
  have hgoes (outcome : Request → Settlement) :
      (Reaction.runs next (execution.onBroker (·.settle outcome)).poll).Sound console := by
    refine .runs (by simp [hmode]) (hled.settle outcome) ?_
    obtain ⟨first, source, received, hrun, hat⟩ := hled
    have hwaits := (first.extends_script source).follow received
    rw [hrun] at hwaits
    have hlines : console.lines = state.drawing.lines := by
      rw [lines, ← hinterpreter, hat.session]
      rfl
    rw [hlines]
    exact hwaits.2 _
  cases line with
  | none => exact hgoes _
  | some line =>
      unfold replied
      dsimp only
      split
      · exact hgoes _
      · exact hgoes _

theorem Reaction.Sound.start (hmode : console.mode = .reading) (next : Next) (source : String) :
    (Reaction.runs next (Execution.start console.interpreter source).poll).Sound console :=
  .runs (by simp [hmode]) (Execution.led_start _ source)
    (console.interpreter.extends_script source)

theorem Sound.reaction (h : console.Sound) (line : Option String) :
    (console.reaction line).Sound console := by
  unfold Console.reaction
  cases hmode : console.mode with
  | closed code => exact .ignores
  | asking execution request next => exact h.reply hmode line
  | reading =>
      cases line with
      | none => exact .tells hmode (.inr rfl)
      | some line =>
          simp only [lineReaction]
          split
          · exact .ignores
          · exact .tells hmode (.inl hmode)
          · exact .tells hmode (.inl hmode)
          · exact .tells hmode (.inl hmode)
          · exact .tells hmode (.inl hmode)
          · exact .tells hmode (.inr rfl)
          · exact .tells hmode (.inr rfl)
          · exact .start hmode .line _

theorem mode_conclude (console : Console) (next : Next) (value : Value) :
    (console.conclude next value).2.mode = .reading ∨
      (console.conclude next value).2.mode = .closed 0 := by
  cases next with
  | leave => exact .inr rfl
  | dialogue => exact .inl rfl
  | line => exact .inl rfl

theorem Sound.of_mode (hmode : console.mode = .reading ∨ ∃ code, console.mode = .closed code) :
    console.Sound := by
  constructor
  intro execution request next hasking
  rcases hmode with hmode | ⟨code, hmode⟩ <;> simp [hmode] at hasking

/-- The console asks for nothing but what the script asks for. -/
theorem Sound.settle {execution : Execution} {run : Run Value} (hled : execution.Led run)
    (console : Console) (next : Next) :
    (console.settle next execution.standing execution).2.Sound := by
  obtain ⟨first, source, received, hrun, hat⟩ := id hled
  rw [hat.standing]
  cases run with
  | done outcome state =>
      refine .of_mode ?_
      cases outcome with
      | ok value => exact (mode_conclude _ next value).imp_right fun h => ⟨0, h⟩
      | error reason => exact .inr ⟨1, rfl⟩
  | waiting request state resume =>
      constructor
      rintro _ _ _ ⟨⟩
      exact ⟨rfl, state, resume, hled⟩

theorem Sound.perform (h : console.Sound) {reaction : Reaction}
    (hreaction : reaction.Sound console) : (reaction.perform console).2.Sound := by
  cases hreaction with
  | ignores => exact h
  | tells hmode hnext => exact .of_mode (hnext.imp_right fun h => ⟨0, h⟩)
  | runs hmode hled hlines => exact .settle hled console _

theorem Sound.feed (h : console.Sound) (line : Option String) : (console.feed line).2.Sound := by
  rw [feed_eq_perform]
  exact h.perform (h.reaction line)

theorem Sound.playFrom (h : console.Sound) (inputs : List (Option String)) :
    (console.playFrom inputs).2.Sound := by
  induction inputs generalizing console with
  | nil => exact h
  | cons line rest ih => exact ih (h.feed line)

theorem sound_fresh (options : Options) : (fresh options).Sound := .of_mode (.inl rfl)

theorem sound_opening (options : Options) : (opening options).Sound (fresh options) := by
  unfold opening
  split
  · exact .start rfl _ _
  · exact .tells rfl (.inl rfl)

theorem sound_start (options : Options) : (start options).2.Sound := by
  rw [start_eq_perform]
  exact (sound_fresh options).perform (sound_opening options)

/-- Whatever has been fed to the console, the answer that it takes is one to the script's own
request. -/
theorem sound_played (options : Options) (inputs : List (Option String)) :
    (played options inputs).2.Sound :=
  (sound_start options).playFrom inputs

end Console

end DraftLisp

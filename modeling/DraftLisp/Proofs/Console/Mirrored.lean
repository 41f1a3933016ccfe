import DraftLisp.Proofs.Console.Played
import DraftLisp.Proofs.Execution.Endings

namespace DraftLisp.Console

/-- What happens on the console, as far as one can see it. -/
inductive Event where
  /-- The log is shown, up to the lines that have been shown before. -/
  | flushed (printed : Nat) (log : List (String × LogStyle))
  | concluded (value : Value) (text : String)
  | asked (request : Request)
  | told (text : String)
  | broken (reason : Halt)

namespace Event

def lines : Event → List (String × LogStyle)
  | flushed printed log => log.drop printed
  | _ => []

/-- A line break is added exactly if the last line that is shown is output of the script. -/
def text : Event → String
  | flushed printed log =>
    String.join ((log.drop printed).map fun line => logLine line.1 line.2)
      ++ if (log.drop printed).getLast?.map (·.2) = some .output then newline else ""
  | concluded _ text | told text => text
  | asked _ | broken _ => ""

/-- Values and requests are dealt with when the log has been shown. -/
def Due : Event → Prop
  | concluded .. | asked _ => True
  | _ => False

theorem text_flushed (printed : Nat) (log : List (String × LogStyle)) :
    (flushed printed log).text = freshText (log.drop printed) := by
  simp only [text, freshText]
  congr 1
  rcases (log.drop printed).getLast? with _ | ⟨line, _ | _ | _ | _ | _⟩ <;> rfl

end Event

def settledEvents (console : Console) (next : Next) (step : Step) (execution : Execution) :
    List Event :=
  let interpreter := execution.interpreter
  let log := interpreter.session.drawing.lines
  let mirroring : Console := { console with interpreter, printed := log.length }
  match step with
  | .halted reason => [.broken reason]
  | .finished value =>
    [.flushed console.printed log, .concluded value (mirroring.conclude next value).1]
  | .awaiting request => [.flushed console.printed log, .asked request]
  | .stalled =>
    let left : Console := { mirroring with interpreter := execution.close }
    [.flushed console.printed log, .told "Script stalled without an input request\n",
      .concluded .nil (left.conclude next .nil).1]

def Reaction.events (console : Console) : Reaction → List Event
  | .ignores => []
  | .tells text _ => [.told text]
  | .runs next execution => console.settledEvents next execution.standing execution

def heard (console : Console) : List (Option String) → List Event
  | [] => []
  | line :: rest => (console.reaction line).events console ++ (console.feed line).2.heard rest

/-- What happens on the console from its start on. -/
def events (options : Options) (inputs : List (Option String)) : List Event :=
  (opening options).events (fresh options) ++ (start options).2.heard inputs

structure Recorded (shown : String) (lines : List (String × LogStyle)) (events : List Event) :
    Prop where
  shown : shown = String.join (events.map Event.text)
  lines : events.flatMap Event.lines = lines
  /-- No more lines have been shown than the log has. -/
  slices : ∀ printed log, .flushed printed log ∈ events → printed ≤ log.length
  /-- The log is shown just before. -/
  due : ∀ earlier event, earlier ++ [event] <+: events → event.Due →
    ∃ printed log, earlier.getLast? = some (.flushed printed log)

/-- The console has shown the log. -/
structure Mirrors (console : Console) (shown : String) (events : List Event) : Prop
    extends Recorded shown (console.lines.take console.printed) events where
  printed_le : console.printed ≤ console.lines.length
  whole : (∀ reason, .broken reason ∉ events) → console.printed = console.lines.length
  /-- Nothing happens behind a script that breaks off, and none does so for an error. -/
  broken : ∀ reason, .broken reason ∈ events →
    (∃ earlier, events = earlier ++ [.broken reason] ∧ ∀ other, .broken other ∉ earlier) ∧
      (∀ error, reason ≠ .error error) ∧ console.mode = .closed 1

variable {console : Console} {shown : String} {lines : List (String × LogStyle)}
  {seen : List Event}

theorem Recorded.concat (h : Recorded shown lines seen) (event : Event)
    (hslices : ∀ printed log, event = .flushed printed log → printed ≤ log.length)
    (hdue : event.Due → ∃ printed log, seen.getLast? = some (.flushed printed log)) :
    Recorded (shown ++ event.text) (lines ++ event.lines) (seen ++ [event]) where
  shown := by simp [h.shown, String.join_append]
  lines := by simp [h.lines]
  slices printed log hmem := by
    rcases List.mem_append.mp hmem with hmem | hmem
    · exact h.slices printed log hmem
    · exact hslices printed log (List.mem_singleton.mp hmem).symm
  due earlier other hearlier := by
    rcases List.prefix_concat_iff.mp hearlier with heq | hearlier
    · obtain ⟨rfl, hlast⟩ := List.append_inj' heq rfl
      obtain rfl : other = event := (List.cons.inj hlast).1
      exact hdue
    · exact h.due earlier other hearlier

/-- The console has shown the whole log, and no script has broken off. -/
structure Whole (console : Console) (shown : String) (seen : List Event) : Prop where
  recorded : Recorded shown console.lines seen
  printed : console.printed = console.lines.length
  unbroken : ∀ reason, .broken reason ∉ seen

theorem Mirrors.whole_of_mode (h : Mirrors console shown seen)
    (hmode : ∀ code, console.mode ≠ .closed code) : Whole console shown seen := by
  have hunbroken (reason : Halt) : .broken reason ∉ seen :=
    fun hmem => hmode 1 (h.broken reason hmem).2.2
  have hprinted := h.whole hunbroken
  refine ⟨?_, hprinted, hunbroken⟩
  have hrecorded := h.toRecorded
  rwa [hprinted, List.take_length] at hrecorded

theorem Whole.mirrors (h : Whole console shown seen) : Mirrors console shown seen where
  toRecorded := by
    rw [h.printed, List.take_length]
    exact h.recorded
  printed_le := h.printed.le
  whole _ := h.printed
  broken reason hmem := absurd hmem (h.unbroken reason)

theorem Whole.concat (h : Whole console shown seen) (after : Console) (event : Event)
    (hunbroken : ∀ reason, event ≠ .broken reason)
    (hslices : ∀ printed log, event = .flushed printed log → printed ≤ log.length)
    (hdue : event.Due → ∃ printed log, seen.getLast? = some (.flushed printed log))
    (hlines : after.lines = console.lines ++ event.lines)
    (hprinted : after.printed = after.lines.length) :
    Whole after (shown ++ event.text) (seen ++ [event]) where
  recorded := hlines ▸ h.recorded.concat event hslices hdue
  printed := hprinted
  unbroken reason hmem := by
    rcases List.mem_append.mp hmem with hmem | hmem
    · exact h.unbroken reason hmem
    · exact hunbroken reason (List.mem_singleton.mp hmem).symm

theorem Whole.told (h : Whole console shown seen) (after : Console) (text : String)
    (hlines : after.lines = console.lines) (hprinted : after.printed = console.printed) :
    Whole after (shown ++ text) (seen ++ [.told text]) :=
  h.concat after (.told text) nofun nofun nofun (by simp [hlines, Event.lines])
    (by rw [hprinted, h.printed, hlines])

theorem Whole.flushed (h : Whole console shown seen) (after : Console)
    {log : List (String × LogStyle)}
    (hlog : console.lines <+: log) (hlines : after.lines = log)
    (hprinted : after.printed = log.length) :
    Whole after (shown ++ (Event.flushed console.printed log).text)
      (seen ++ [.flushed console.printed log]) := by
  refine h.concat after _ nofun ?_ nofun ?_ (hlines ▸ hprinted)
  · rintro _ _ ⟨⟩
    exact h.printed ▸ hlog.length_le
  · rw [hlines, Event.lines, h.printed]
    exact (List.prefix_iff_eq_append.mp hlog).symm

/-- A value or a request comes up. -/
theorem Whole.due (h : Whole console shown seen) (after : Console) {event : Event}
    (hdue : event.Due)
    (hlast : ∃ printed log, seen.getLast? = some (.flushed printed log))
    (hlines : after.lines = console.lines) (hprinted : after.printed = console.printed) :
    Whole after (shown ++ event.text) (seen ++ [event]) := by
  refine h.concat after event ?_ ?_ (fun _ => hlast) ?_ (by rw [hprinted, h.printed, hlines])
  · rintro reason rfl
    exact hdue
  · rintro printed log rfl
    exact hdue.elim
  · cases event with
    | flushed printed log => exact hdue.elim
    | _ => simp [hlines, Event.lines]

theorem Whole.flushed_due (h : Whole console shown seen) (after : Console) (event : Event)
    {log : List (String × LogStyle)} (hlog : console.lines <+: log) (hdue : event.Due)
    (hlines : after.lines = log) (hprinted : after.printed = log.length) :
    Whole after (shown ++ (freshText (log.drop console.printed) ++ event.text))
      (seen ++ [.flushed console.printed log, event]) := by
  rw [← String.append_assoc, ← Event.text_flushed, List.append_cons]
  exact (h.flushed after hlog hlines hprinted).due after hdue ⟨_, _, List.getLast?_concat⟩ rfl rfl

/-- A script breaks off; what it has logged since it went on is not shown. -/
theorem Whole.broken (h : Whole console shown seen) (after : Console) {reason : Halt}
    (hreason : ∀ error, reason ≠ .error error) (hlog : console.lines <+: after.lines)
    (hprinted : after.printed = console.printed) (hmode : after.mode = .closed 1) :
    Mirrors after shown (seen ++ [.broken reason]) where
  toRecorded := by
    have htake : after.lines.take after.printed = console.lines := by
      rw [hprinted, h.printed]
      exact (List.prefix_iff_eq_take.mp hlog).symm
    have hrecorded := h.recorded.concat (.broken reason) (fun _ _ => nofun) nofun
    simp only [Event.lines, List.append_nil] at hrecorded
    rw [htake, ← String.append_empty (s := shown)]
    exact hrecorded
  printed_le := by
    rw [hprinted, h.printed]
    exact hlog.length_le
  whole hunbroken := absurd (List.mem_append_right _ (List.mem_singleton_self _))
    (hunbroken reason)
  broken other hmem := by
    rcases List.mem_append.mp hmem with hmem | hmem
    · exact absurd hmem (h.unbroken other)
    · obtain rfl : other = reason := by simpa using hmem
      exact ⟨⟨seen, rfl, h.unbroken⟩, hreason, hmode⟩

theorem lines_conclude (console : Console) (next : Next) (value : Value) :
    (console.conclude next value).2.lines = console.lines := by
  cases next <;> rfl

theorem printed_conclude (console : Console) (next : Next) (value : Value) :
    (console.conclude next value).2.printed = console.printed := by
  cases next <;> rfl

theorem Whole.settle (h : Whole console shown seen) (next : Next) {execution : Execution}
    {run : Run Value} (hled : execution.Led run) (hlines : run.Extends console.lines) :
    Mirrors (console.settle next execution.standing execution).2
      (shown ++ (console.settle next execution.standing execution).1)
      (seen ++ console.settledEvents next execution.standing execution) := by
  obtain ⟨first, source, received, hrun, hat⟩ := hled
  have hlog : console.lines <+: execution.interpreter.session.drawing.lines := by
    rw [hat.session]
    exact hlines.prefix_state
  rw [hat.standing]
  cases run with
  | waiting request state resume =>
      let asking : Console := ⟨execution.interpreter,
        execution.interpreter.session.drawing.log.size, .asking execution request next⟩
      have hasked := h.flushed_due asking (.asked request) hlog trivial rfl rfl
      rw [Event.text, String.append_empty] at hasked
      exact hasked.mirrors
  | done outcome state =>
      cases outcome with
      | ok value =>
          let mirroring : Console := ⟨execution.interpreter,
            execution.interpreter.session.drawing.log.size, console.mode⟩
          let concluded : Event := .concluded value (mirroring.conclude next value).1
          have hconcluded := h.flushed_due _ concluded hlog trivial
            (mirroring.lines_conclude next value) (mirroring.printed_conclude next value)
          exact hconcluded.mirrors
      | error reason =>
          let closed : Console := ⟨execution.interpreter, console.printed, .closed 1⟩
          have hreason := (Interpreter.follow_of_script hrun).2
          have hbroken := h.broken closed hreason hlog rfl rfl
          rw [← String.append_empty (s := shown)] at hbroken
          exact hbroken

theorem Mirrors.perform (h : Mirrors console shown seen) {reaction : Reaction}
    (hreaction : reaction.Sound console) :
    Mirrors (reaction.perform console).2 (shown ++ (reaction.perform console).1)
      (seen ++ reaction.events console) := by
  cases hreaction with
  | ignores =>
      simp only [Reaction.perform, Reaction.events, String.append_empty, List.append_nil]
      exact h
  | @tells text mode hmode hnext =>
      have hwhole := h.whole_of_mode (by simp [hmode])
      exact (hwhole.told { console with mode } text rfl rfl).mirrors
  | runs hmode hled hlines => exact (h.whole_of_mode hmode).settle _ hled hlines

theorem Mirrors.playFrom (h : Mirrors console shown seen) (hsound : console.Sound)
    (inputs : List (Option String)) :
    Mirrors (console.playFrom inputs).2 (shown ++ (console.playFrom inputs).1)
      (seen ++ console.heard inputs) := by
  induction inputs generalizing console shown seen with
  | nil =>
      simp only [Console.playFrom, heard, String.append_empty, List.append_nil]
      exact h
  | cons line rest ih =>
      have hnext := h.perform (hsound.reaction line)
      rw [← feed_eq_perform] at hnext
      have hrest := ih hnext (hsound.feed line)
      rw [String.append_assoc, List.append_assoc] at hrest
      exact hrest

theorem mirrors_fresh (options : Options) : Mirrors (fresh options) "" [] := by
  refine Whole.mirrors ⟨⟨rfl, rfl, nofun, ?_⟩, rfl, nofun⟩
  intro earlier event hearlier
  simp at hearlier

/-- Whatever is fed to the console, it shows the log. -/
theorem mirrors_played (options : Options) (inputs : List (Option String)) :
    Mirrors (played options inputs).2 (played options inputs).1 (events options inputs) := by
  have hopening := (mirrors_fresh options).perform (sound_opening options)
  rw [← start_eq_perform, String.empty_append, List.nil_append] at hopening
  exact hopening.playFrom (sound_start options) inputs

/-- When a script breaks off, the lines that it has logged since it last went on are not shown. -/
theorem not_flushed_whole :
    ¬∀ options inputs,
      (events options inputs).flatMap Event.lines = (played options inputs).2.lines := by
  intro h
  let options : Options := ⟨none, false, false⟩
  let inputs := [some "(prompt \"hello\") (rtos 1 2 65536)"]
  have hevents : (events options inputs).flatMap Event.lines = [] := by decide +kernel
  have hlines : (played options inputs).2.lines = [("hello", .prompt)] := by decide +kernel
  rw [h options inputs, hlines] at hevents
  cases hevents

end DraftLisp.Console

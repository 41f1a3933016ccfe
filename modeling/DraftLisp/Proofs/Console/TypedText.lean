import DraftLisp.Proofs.Console.Played
import DraftLisp.Proofs.Execution.Waiting

namespace DraftLisp

namespace Console

/-- The line is two or more numbers with commas between them. -/
structure Coordinates (line : String) (numbers : List Float) : Prop where
  two_le : 2 ≤ numbers.length
  read : List.Forall₂ (fun part number => Numeric.readFloat? (Text.trim part.toList) = some number)
    (line.splitOn ",") numbers

variable {line : String}

theorem typedAnswer_of_coordinates (hjson : Json.read? (Text.trimmed line) = none)
    {numbers : List Float} (h : Coordinates (Text.trimmed line) numbers) :
    typedAnswer line = .array (numbers.map coordinate) := by
  have hread : coordinates? (Text.trimmed line) = some numbers := mapM_eq_some_iff.mpr h.read
  have htwo := h.two_le
  obtain _ | ⟨x, _ | ⟨y, rest⟩⟩ := numbers
  · cases htwo
  · exact absurd htwo (by simp)
  · simp [typedAnswer, hjson, hread]

theorem typedAnswer_of_text (hjson : Json.read? (Text.trimmed line) = none)
    (h : ∀ numbers, ¬Coordinates (Text.trimmed line) numbers) :
    typedAnswer line = .string (Text.trimmed line) := by
  unfold typedAnswer
  simp only [hjson]
  split
  · rename_i x y rest hread
    exact absurd ⟨by simp, mapM_eq_some_iff.mp hread⟩ (h (x :: y :: rest))
  · rfl

/-- The operator that asks for a text. -/
def textOperator? : InputKind → Option String
  | .string => some "GETSTRING"
  | .keyword => some "GETKWORD"
  | _ => none

theorem value_of_text {kind : InputKind} {operator : String}
    (hkind : textOperator? kind = some operator) (hjson : Json.read? (Text.trimmed line) = none)
    (h : ∀ numbers, ¬Coordinates (Text.trimmed line) numbers) :
    Answer.value kind (typedAnswer line) = .string (Text.trimmed line) := by
  rw [typedAnswer_of_text hjson h]
  cases kind with
  | string => rfl
  | keyword => rfl
  | _ => cases hkind

theorem value_of_coordinates {kind : InputKind} {operator : String}
    (hkind : textOperator? kind = some operator) (hjson : Json.read? (Text.trimmed line) = none)
    {numbers : List Float} (h : Coordinates (Text.trimmed line) numbers) :
    Answer.value kind (typedAnswer line) = .nil := by
  rw [typedAnswer_of_coordinates hjson h]
  cases kind with
  | string => rfl
  | keyword => rfl
  | _ => cases hkind

theorem name_of_textOperator? {operator : Builtin} {kind : InputKind} {name : String}
    (hasked : (operator.name, kind) ∈ Builtin.asked) (hkind : textOperator? kind = some name) :
    operator.name = name := by
  cases kind with
  | string =>
      cases hkind
      simpa [Builtin.asked] using hasked
  | keyword =>
      cases hkind
      simpa [Builtin.asked] using hasked
  | _ => cases hkind

/-- The script waits in a call of an operator; after the answer the call has returned `value`, and
the script has gone on with it. -/
inductive Returned (name : String) (execution after : Execution) (value : Value) : Prop
  | intro {operator : Builtin} {ev : Evaluator} {level : Nat} {operands : List Value}
      {before shown : State} {request : Request} {resume : Settlement → Run Value}
      {context : Run Value → Run Value} (hmem : operator ∈ Builtin.all)
      (hname : operator.name = name)
      (hcall : apply ev level (.builtin operator) operands before = .waiting request shown resume)
      (hcontext : Run.Context context)
      (hbefore : execution.At (context (apply ev level (.builtin operator) operands before)))
      (hreturns : resume (.ok value) = .done (.ok value) shown)
      (hafter : after.At (context (resume (.ok value))))

/-- A line that is not blank is the answer to the request of the call in which the script waits. -/
theorem Sound.returned {console : Console} (h : console.Sound) {execution : Execution}
    {request : Request} {next : Next} {name : String}
    (hmode : console.mode = .asking execution request next)
    (hkind : textOperator? request.kind = some name) (hblank : Text.trimmed line ≠ "") :
    ∃ after, console.feed (some line) = console.settle next after.standing after ∧
      Returned name execution after (Answer.value request.kind (typedAnswer line)) := by
  obtain ⟨-, state, resume, first, source, received, hrun, hat⟩ := h.asking _ _ _ hmode
  have hcalling := (first.calling_script source).follow received
  rw [hrun] at hcalling
  cases hcalling.1 with
  | @intro operator ask ev level operands before shown answered context hmem haction hcall hdemands
      hcontext hincall =>
      obtain ⟨waits, hwaits⟩ := hcontext.waiting request shown answered
      have hsame := hincall
      rw [hcall, hwaits] at hsame
      obtain ⟨-, rfl, rfl⟩ := Run.waiting.inj hsame
      refine ⟨(execution.answer (typedAnswer line)).2, ?_,
        .intro hmem (name_of_textOperator? hdemands.1 hkind) hcall hcontext (hincall ▸ hat)
          (resume_of_apply_waiting haction hcall _) (hat.settle _)⟩
      rw [feed_eq_perform]
      simp [Console.reaction, hmode, replied, hblank, Reaction.perform]

theorem Coordinates.ne_empty {numbers : List Float} (h : Coordinates line numbers) : line ≠ "" := by
  rintro rfl
  have hparts : "".splitOn "," = [""] := by
    unfold String.splitOn String.splitOnAux
    decide +kernel
  have hlength := h.read.length_eq
  have htwo := h.two_le
  rw [← hlength, hparts] at htwo
  exact absurd htwo (by decide)

/-- What the console does with a line when a script asks for a text. -/
structure TakesText (console : Console) : Prop where
  text : ∀ execution request next name line,
    console.mode = .asking execution request next → textOperator? request.kind = some name →
    Text.trimmed line ≠ "" → Json.read? (Text.trimmed line) = none →
    (∀ numbers, ¬Coordinates (Text.trimmed line) numbers) →
      ∃ after, console.feed (some line) = console.settle next after.standing after ∧
        Returned name execution after (.string (Text.trimmed line))
  /-- Two or three numbers are a point, which is no text. -/
  point : ∀ execution request next name line numbers,
    console.mode = .asking execution request next → textOperator? request.kind = some name →
    Json.read? (Text.trimmed line) = none → Coordinates (Text.trimmed line) numbers →
    numbers.length ≤ 3 →
      ∃ after, console.feed (some line) = console.settle next after.standing after ∧
        Returned name execution after .nil

/-- Whatever has been fed to the console before, a script that asks for a text gets the line that is
typed, and nil for a point. -/
theorem takesText_played (options : Options) (inputs : List (Option String)) :
    TakesText (played options inputs).2 where
  text execution request next name line hmode hkind hblank hjson hnumbers := by
    obtain ⟨after, hfeed, hreturned⟩ := (sound_played options inputs).returned hmode hkind hblank
    rw [value_of_text hkind hjson hnumbers] at hreturned
    exact ⟨after, hfeed, hreturned⟩
  point execution request next name line numbers hmode hkind hjson hnumbers _ := by
    obtain ⟨after, hfeed, hreturned⟩ :=
      (sound_played options inputs).returned hmode hkind hnumbers.ne_empty
    rw [value_of_coordinates hkind hjson hnumbers] at hreturned
    exact ⟨after, hfeed, hreturned⟩

theorem splitOn_pair : "1,2".splitOn "," = ["1", "2"] :=
  calc
    "1,2".splitOnAux "," 0 0 0 [] = "1,2".splitOnAux "," 0 ⟨1⟩ 0 [] := by
      rw [String.splitOnAux, if_neg (by decide +kernel), if_neg (by decide +kernel)]
      rfl
    _ = "1,2".splitOnAux "," ⟨2⟩ ⟨2⟩ 0 ["1"] := by
      rw [String.splitOnAux, if_neg (by decide +kernel), if_pos (by decide +kernel)]
      rfl
    _ = "1,2".splitOnAux "," ⟨2⟩ ⟨3⟩ 0 ["1"] := by
      rw [String.splitOnAux, if_neg (by decide +kernel), if_neg (by decide +kernel)]
      rfl
    _ = ["1", "2"] := by
      rw [String.splitOnAux]
      decide +kernel

theorem coordinates_pair : Coordinates "1,2" [1.0, 2.0] where
  two_le := by simp
  read := by
    rw [splitOn_pair]
    exact .cons (by decide +kernel) (.cons (by decide +kernel) .nil)

def request? (console : Console) : Option Request :=
  match console.mode with
  | .asking _ request _ => some request
  | _ => none

/-- What the console shows when a script receives an answer. -/
def shownFor (console : Console) (raw : Json) : String :=
  match console.mode with
  | .asking execution _ next =>
    (console.settle next (execution.answer raw).1 (execution.answer raw).2).1
  | _ => ""

theorem feed_eq_shownFor {console : Console} {request : Request}
    (hrequest : console.request? = some request) (hblank : Text.trimmed line ≠ "") :
    (console.feed (some line)).1 = console.shownFor (typedAnswer line) := by
  unfold request? at hrequest
  split at hrequest
  · rename_i hmode
    simp [shownFor, feed, hmode, answer, hblank]
  · cases hrequest

/-- `GETSTRING` does not return every line that is no JSON: two numbers are a point. -/
theorem not_shown_as_typed :
    ¬∀ line, Text.trimmed line ≠ "" → Json.read? (Text.trimmed line) = none →
      (played ⟨none, false, false⟩ [some "(getstring)", some line]).1 =
        banner ++ ((Value.string (Text.trimmed line)).text ++ newline) := by
  intro h
  have htrimmed : Text.trimmed "1,2" = "1,2" := by decide +kernel
  have hblank : Text.trimmed "1,2" ≠ "" := by decide +kernel
  have hjson : Json.read? (Text.trimmed "1,2") = none := by decide +kernel
  have hanswer : typedAnswer "1,2" = .array ([1.0, 2.0].map coordinate) :=
    typedAnswer_of_coordinates hjson (htrimmed ▸ coordinates_pair)
  let asked := (start ⟨none, false, false⟩).2.feed (some "(getstring)")
  have hrequest : asked.2.request? = some ⟨.string, "", none⟩ := by decide +kernel
  have hasked : asked.1 = "" := by decide +kernel
  have hfed : (asked.2.feed (some "1,2")).1 = "nil\n" := by
    rw [feed_eq_shownFor hrequest hblank, hanswer]
    decide +kernel
  have hshown : (played ⟨none, false, false⟩ [some "(getstring)", some "1,2"]).1 =
      banner ++ (asked.1 ++ ((asked.2.feed (some "1,2")).1 ++ "")) := rfl
  rw [h "1,2" hblank hjson, hasked, hfed] at hshown
  exact absurd hshown (by decide +kernel)

end Console

end DraftLisp

import DraftLisp.Builtin.Editing
import DraftLisp.Proofs.Text.Casing

namespace DraftLisp

namespace Drawing

def sendAll (events : List CommandEvent) (drawing : Drawing) : Drawing :=
  { drawing with commands := drawing.commands ++ events }

theorem sendAll_nil (drawing : Drawing) : drawing.sendAll [] = drawing := by simp [sendAll]

theorem send_eq_sendAll (event : CommandEvent) (drawing : Drawing) :
    drawing.send event = drawing.sendAll [event] := by
  simp [send, sendAll]

theorem sendAll_sendAll (first second : List CommandEvent) (drawing : Drawing) :
    (drawing.sendAll first).sendAll second = drawing.sendAll (first ++ second) := by
  have hcommands : drawing.commands ++ first ++ second = drawing.commands ++ (first ++ second) :=
    Array.toList_inj.mp (by simp)
  simp only [sendAll, hcommands]

end Drawing

open Builtin.Editing

/-- A name that a command can have. -/
structure CommandName (name : String) : Prop where
  ne_empty : name ≠ ""
  upper : Text.upper name = name
  unmarked : ∀ c ∈ name.toList.head?, c ≠ '_' ∧ c ≠ '.'

theorem CommandName.of_read {value : Value} {name : String} (h : commandName value = .ok name)
    (hne : name ≠ "") : CommandName name := by
  obtain ⟨text, -, hname⟩ : ∃ text, value.expectString = .ok text ∧
      Text.upper (String.ofList (text.toList.dropWhile fun c => c = '_' || c = '.')) = name := by
    unfold commandName at h
    cases htext : value.expectString with
    | error error => simp [htext, bind, Except.bind] at h
    | ok text =>
        rw [htext] at h
        exact ⟨text, rfl, Except.ok.inj h⟩
  simp only [Text.upper, String.toList_ofList] at hname
  subst hname
  refine ⟨hne, ?_, fun u hu => ?_⟩
  · simp [Text.upper, Text.Casing.upperChars_upperChars]
  · rw [String.toList_ofList] at hu
    obtain ⟨c, hc, hupper⟩ := Text.Casing.mem_head?_upperChars hu
    have hkept : (decide (c = '_') || decide (c = '.')) = false := by
      have hhead := List.head?_dropWhile_not (fun c => c = '_' || c = '.') text.toList
      rw [hc] at hhead
      simpa using hhead
    simp only [Bool.or_eq_false_iff, decide_eq_false_iff_not] at hkept
    constructor
    · rintro rfl
      exact hkept.1 (Text.Casing.eq_of_mem_upperChar hupper (.inr (by decide)))
    · rintro rfl
      exact hkept.2 (Text.Casing.eq_of_mem_upperChar hupper (.inl (by decide)))

/-- A use of an operator for commands that is not refused. -/
inductive CommandCall where
  /-- A command that is fed its arguments one after the other. -/
  | steps (name : String) (arguments : List Value)
  /-- A command that runs with all of its arguments at once. -/
  | atOnce (name : String) (arguments : List Value)
  /-- The running command is cancelled. -/
  | cancel

namespace CommandCall

/-- What a command that runs step by step receives for an argument. -/
def sent : Value → CommandEvent
  | .list [.number x, .number y] | .list [.number x, .number y, .number _] => .click ⟨x, y⟩
  | .nil => .input ""
  | value => .input value.displayText

def events : CommandCall → List CommandEvent
  | .steps name arguments =>
      .start name :: .settle :: arguments.flatMap fun argument => [sent argument, .settle]
  | .atOnce name arguments => [.execute name (arguments.map argumentText)]
  | .cancel => [.cancel]

def name? : CommandCall → Option String
  | .steps name _ | .atOnce name _ => some name
  | .cancel => none

/-- A command with a name is one undo step. -/
def carriedOut (call : CommandCall) (drawing : Drawing) : Drawing :=
  match call.name? with
  | some name => ((drawing.checkpoint name).sendAll call.events).redraw
  | none => drawing.sendAll call.events

/-- The operator with a name makes a call of its operands. -/
inductive From (operator : String) (operands : List Value) : CommandCall → Prop
  | steps {first : Value} {name : String} {arguments : List Value} : operator = "COMMAND" →
      operands = first :: arguments → commandName first = .ok name → name ≠ "" →
      From operator operands (.steps name arguments)
  | atOnce {first : Value} {name : String} {arguments : List Value} : operator = "COMMAND-S" →
      operands = first :: arguments → commandName first = .ok name → name ≠ "" →
      From operator operands (.atOnce name arguments)
  | cancel : operator = "COMMAND" → operands = [] → From operator operands .cancel

variable {operator name : String} {operands : List Value} {call : CommandCall}

theorem From.of_name (h : call.From operator operands) (hname : call.name? = some name) :
    (operator = "COMMAND" ∨ operator = "COMMAND-S") ∧
      ∃ first ∈ operands.head?, commandName first = .ok name ∧ name ≠ "" := by
  cases h with
  | steps hoperator hoperands hread hne =>
      cases hname
      exact ⟨.inl hoperator, _, by rw [hoperands]; rfl, hread, hne⟩
  | atOnce hoperator hoperands hread hne =>
      cases hname
      exact ⟨.inr hoperator, _, by rw [hoperands]; rfl, hread, hne⟩
  | cancel => cases hname

theorem From.commandName (h : call.From operator operands) (hname : call.name? = some name) :
    CommandName name := by
  obtain ⟨-, first, -, hread, hne⟩ := h.of_name hname
  exact .of_read hread hne

/-- The events that a block can begin with. -/
def opens : CommandEvent → Bool
  | .start _ | .execute .. | .cancel => true
  | _ => false

theorem opens_sent (value : Value) : opens (sent value) = false := by
  unfold sent
  split <;> rfl

theorem exists_opening (call : CommandCall) :
    ∃ first rest, call.events = first :: rest ∧ opens first = true ∧
      ∀ event ∈ rest, opens event = false := by
  cases call with
  | steps name arguments =>
      refine ⟨_, _, rfl, rfl, fun event hevent => ?_⟩
      rcases List.mem_cons.mp hevent with rfl | hargument
      · rfl
      · obtain ⟨argument, -, hpair⟩ := List.mem_flatMap.mp hargument
        simp only [List.mem_cons, List.not_mem_nil, or_false] at hpair
        rcases hpair with rfl | rfl
        · exact opens_sent argument
        · rfl
  | atOnce name arguments => exact ⟨_, _, rfl, rfl, by simp⟩
  | cancel => exact ⟨_, _, rfl, rfl, by simp⟩

theorem takeWhile_blocks {rest : List CommandEvent} (h : ∀ event ∈ rest, opens event = false)
    (calls : List CommandCall) :
    (rest ++ calls.flatMap events).takeWhile (!opens ·) = rest := by
  rw [List.takeWhile_append_of_pos fun event hevent => by simp [h event hevent]]
  cases calls with
  | nil => exact List.append_nil rest
  | cons call others =>
      obtain ⟨first, behind, hevents, hfirst, -⟩ := call.exists_opening
      simp [hevents, hfirst]

/-- The blocks can be told apart by the events alone. -/
theorem map_events_eq {calls others : List CommandCall}
    (h : calls.flatMap events = others.flatMap events) :
    calls.map events = others.map events := by
  induction calls generalizing others with
  | nil =>
      cases others with
      | nil => rfl
      | cons other _ =>
          obtain ⟨first, behind, hevents, -⟩ := other.exists_opening
          rw [List.flatMap_cons, hevents] at h
          cases h
  | cons call calls ih =>
      obtain ⟨first, behind, hevents, -, hbehind⟩ := call.exists_opening
      cases others with
      | nil =>
          rw [List.flatMap_cons, hevents] at h
          cases h
      | cons other others =>
          obtain ⟨first', behind', hevents', -, hbehind'⟩ := other.exists_opening
          rw [List.flatMap_cons, List.flatMap_cons, hevents, hevents'] at h
          obtain ⟨rfl, -⟩ := List.cons.inj h
          have htails : behind ++ calls.flatMap events = behind' ++ others.flatMap events :=
            (List.cons.inj h).2
          have hsame : behind = behind' := by
            rw [← takeWhile_blocks hbehind calls, htails, takeWhile_blocks hbehind' others]
          subst hsame
          rw [List.map_cons, List.map_cons, ih (List.append_cancel_left htails), hevents, hevents']

end CommandCall

theorem feed_apply (value : Value) (drawing : Drawing) :
    feed value drawing = (.ok (), drawing.sendAll [CommandCall.sent value, .settle]) := by
  have hevent : feed value drawing =
      (.ok (), (drawing.send (CommandCall.sent value)).send .settle) := by
    unfold CommandCall.sent
    split
    · rfl
    · rfl
    · rfl
    · rename_i htwo hthree hnil
      have hpoint : value.point? = none := by
        unfold Value.point?
        split
        · exact absurd rfl (htwo _ _)
        · exact absurd rfl (hthree _ _ _)
        · rfl
      have htext : commandText value = value.displayText := by
        unfold commandText
        split
        · exact absurd rfl hnil
        · rfl
      unfold feed
      rw [hpoint, htext]
      rfl
  rw [hevent, Drawing.send_eq_sendAll, Drawing.send_eq_sendAll, Drawing.sendAll_sendAll]
  rfl

theorem feedAll_apply (values : List Value) (drawing : Drawing) :
    feedAll values drawing =
      (.ok (),
        drawing.sendAll (values.flatMap fun value => [CommandCall.sent value, .settle])) := by
  induction values generalizing drawing with
  | nil => rw [List.flatMap_nil, Drawing.sendAll_nil]; rfl
  | cons value rest ih =>
      rw [feedAll, edit_bind_apply, feed_apply]
      simp only [ih, Drawing.sendAll_sendAll, List.flatMap_cons]

end DraftLisp

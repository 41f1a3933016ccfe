import DraftLisp.Proofs.Form.Reading

namespace DraftLisp

namespace SyntaxFault

theorem append_ne_append {first second : String} {c d : Char} (place : Nat)
    (hfirst : first.toList[place]? = some c) (hsecond : second.toList[place]? = some d)
    (hne : c ≠ d) (rest other : String) : first ++ rest ≠ second ++ other := by
  intro h
  have hplace : (first ++ rest).toList[place]? = (second ++ other).toList[place]? := by rw [h]
  rw [String.toList_append, String.toList_append,
    List.getElem?_append_left (List.getElem?_eq_some_iff.mp hfirst).1, hfirst,
    List.getElem?_append_left (List.getElem?_eq_some_iff.mp hsecond).1, hsecond] at hplace
  exact hne (Option.some.inj hplace)

/-- The wording of an unclosed list, with the part in front that does not depend on the number. -/
theorem message_unclosed (count : Nat) :
    (unclosed count).message =
      "unexpected end of input: " ++ (count.repr ++ " unclosed parenthesis") :=
  String.append_assoc

theorem message_nesting_ne (limit count : Nat) :
    (nesting limit).message ≠ (unclosed count).message := by
  rw [message_unclosed]
  exact append_ne_append 0 (c := 'n') (d := 'u') rfl rfl (by decide) limit.repr _

theorem message_closing_ne (count : Nat) : closing.message ≠ (unclosed count).message := by
  rw [message_unclosed, ← String.append_empty (s := closing.message)]
  exact append_ne_append 11 (c := '\'') (d := 'e') rfl rfl (by decide) _ _

theorem message_quoteAtEnd_ne (count : Nat) : quoteAtEnd.message ≠ (unclosed count).message := by
  rw [message_unclosed, ← String.append_empty (s := quoteAtEnd.message)]
  exact append_ne_append 0 (c := 'q') (d := 'u') rfl rfl (by decide) _ _

theorem unclosed_of_message {count other : Nat}
    (h : (unclosed other).message = (unclosed count).message) : other = count := by
  rw [message_unclosed, message_unclosed, String.append_right_inj, String.append_left_inj] at h
  have hdigits : Nat.toDigits 10 other = Nat.toDigits 10 count := String.ofList_injective h
  simpa using congrArg (Nat.ofDigitChars 10 · 0) hdigits

end SyntaxFault

namespace Reader

variable {limit : Nat} {state after : State} {token : Token} {tokens : List Token}

/-- The number of lists among the openings. -/
def lists (openings : List Opening) : Nat := openings.countP (·.isList)

@[simp] theorem lists_list (items : List Form) (outer : List Opening) :
    lists (.list items :: outer) = lists outer + 1 :=
  List.countP_cons_of_pos rfl

@[simp] theorem lists_quote (outer : List Opening) : lists (.quote :: outer) = lists outer :=
  List.countP_cons_of_neg Bool.false_ne_true

/-- No quote mark waits innermost for its form. -/
def State.Rests (state : State) : Prop := ∀ outer, state.openings ≠ .quote :: outer

@[simp] theorem lists_deliver (form : Form) (read : List Form) (openings : List Opening) :
    lists (deliver form read openings).openings = lists openings := by
  induction openings generalizing form with
  | nil => rfl
  | cons opening outer ih =>
      cases opening with
      | quote => exact ih form.quoted
      | list items => rfl

/-- The quote marks in front of a form are finished with it. -/
theorem rests_deliver (form : Form) (read : List Form) (openings : List Opening) :
    (deliver form read openings).Rests := by
  induction openings generalizing form with
  | nil => simp [State.Rests, deliver]
  | cons opening outer ih =>
      cases opening with
      | quote => exact ih form.quoted
      | list items => simp [State.Rests, deliver]

theorem lists_of_steps (h : Steps limit state token after) :
    lists after.openings + [token].count .closing =
      lists state.openings + [token].count .opening := by
  cases h with
  | closing hopenings => simp [hopenings]
  | _ => simp

/-- The lists that are open are those whose closing parenthesis is missing. -/
theorem lists_of_foldlM (h : tokens.foldlM (step limit) .start = .ok state) :
    tokens.count .opening = tokens.count .closing + lists state.openings := by
  refine holds_of_foldlM
    (P := fun read state => read.count .opening = read.count .closing + lists state.openings)
    rfl ?_ h
  intro read state token after hread hstep
  have hlists := lists_of_steps hstep
  rw [List.count_append, List.count_append]
  omega

theorem exists_list_of_rests (h : state.Rests) (hlists : 0 < lists state.openings) :
    ∃ items outer, state.openings = .list items :: outer := by
  obtain ⟨openings, read⟩ := state
  rcases openings with _ | ⟨items | _, outer⟩
  · cases hlists
  · exact ⟨items, outer, rfl⟩
  · exact (h outer rfl).elim

theorem finish_of_rests (h : state.Rests) :
    state.finish =
      if lists state.openings = 0 then .ok state.forms.reverse
      else .error (.unclosed (lists state.openings)) := by
  obtain ⟨openings, read⟩ := state
  rcases openings with _ | ⟨items | _, outer⟩
  · rfl
  · rw [lists_list, if_neg (Nat.succ_ne_zero _), ← lists_list items outer]
    rfl
  · exact (h outer rfl).elim

/-- A closing parenthesis finishes a list wherever one is open, whatever the limit. -/
theorem foldlM_closings (limit : Nat) (h : state.Rests) {count : Nat}
    (hcount : count ≤ lists state.openings) :
    ∃ after, (List.replicate count Token.closing).foldlM (step limit) state = .ok after ∧
      after.Rests ∧ lists after.openings = lists state.openings - count := by
  induction count generalizing state with
  | zero => exact ⟨state, rfl, h, rfl⟩
  | succ count ih =>
      obtain ⟨items, outer, hopenings⟩ := exists_list_of_rests h (by omega)
      have hlists : lists state.openings = lists outer + 1 := by rw [hopenings, lists_list]
      have hrests := rests_deliver (.list items.reverse) state.forms outer
      obtain ⟨after, hfold, hafter, hleft⟩ := ih hrests (by rw [lists_deliver]; omega)
      refine ⟨after, ?_, hafter, ?_⟩
      · rw [List.replicate_succ, foldlM_cons_of_steps (.closing hopenings), hfold]
      · rw [hleft, lists_deliver]
        omega

theorem rests_of_finish {count : Nat} (h : state.finish = .error (.unclosed count)) :
    state.Rests ∧ lists state.openings = count ∧ 0 < count := by
  obtain ⟨openings, read⟩ := state
  rcases openings with _ | ⟨items | _, outer⟩
  · cases h
  · cases h
    have hpos : 0 < lists (.list items :: outer) := by simp
    exact ⟨fun _ => by simp, rfl, hpos⟩
  · cases h

theorem foldlM_of_unclosed {count : Nat} (h : forms limit tokens = .error (.unclosed count)) :
    ∃ state, tokens.foldlM (step limit) .start = .ok state ∧ state.Rests ∧
      lists state.openings = count ∧ 0 < count := by
  unfold forms at h
  split at h
  · rename_i state hfold
    exact ⟨state, hfold, rests_of_finish h⟩
  · rename_i fault hfold
    cases h
    rcases fault_of_foldlM hfold with hnesting | hclosing
    · cases hnesting
    · cases hclosing

/-- What the reader makes of the tokens with some of the missing parentheses at their end. -/
theorem forms_append_closings {count : Nat} (h : forms limit tokens = .error (.unclosed count))
    {added : Nat} (hadded : added ≤ count) :
    ∃ read, forms limit (tokens ++ List.replicate added .closing) =
      if count - added = 0 then .ok read else .error (.unclosed (count - added)) := by
  obtain ⟨state, hfold, hrests, rfl, -⟩ := foldlM_of_unclosed h
  obtain ⟨after, hclosings, hafter, hlists⟩ := foldlM_closings limit hrests hadded
  refine ⟨after.forms.reverse, ?_⟩
  rw [forms_eq_bind, List.foldlM_append, hfold]
  change (List.replicate added Token.closing).foldlM (step limit) state >>= State.finish = _
  rw [hclosings, ← hlists]
  exact finish_of_rests hafter

/-- No other fault of the reader has the wording of an unclosed list. -/
theorem eq_unclosed_of_message {fault : SyntaxFault} {count : Nat}
    (h : forms limit tokens = .error fault)
    (hmessage : fault.message = (SyntaxFault.unclosed count).message) :
    fault = .unclosed count := by
  rcases fault_of_forms h with (rfl | rfl) | rfl | ⟨other, rfl⟩
  · exact (SyntaxFault.message_nesting_ne limit count hmessage).elim
  · exact (SyntaxFault.message_closing_ne count hmessage).elim
  · exact (SyntaxFault.message_quoteAtEnd_ne count hmessage).elim
  · rw [SyntaxFault.unclosed_of_message hmessage]

/-- If reading fails with the report of unclosed parentheses, their number is that of the opening
parentheses without a closing one, so many closing parentheses at the end of the tokens make them
readable below the same limit, and fewer of them leave the rest to be reported. -/
theorem closing_unclosed (limit : Nat) (tokens : List Token) (count : Nat) (error : Error)
    (hread : Reader.read limit tokens = .error error)
    (hmessage : error.message =
      "SyntaxError: " ++ ("unexpected end of input: " ++ count.repr ++ " unclosed parenthesis")) :
    1 ≤ count ∧ (tokens.count .opening : Int) - tokens.count .closing = count ∧
      (∃ read, Reader.read limit (tokens ++ List.replicate count .closing) = .ok read) ∧
      ∀ added < count, ∃ remaining,
        Reader.read limit (tokens ++ List.replicate added .closing) = .error remaining ∧
          remaining.message = "SyntaxError: " ++ ("unexpected end of input: " ++
            (count - added).repr ++ " unclosed parenthesis") := by
  obtain ⟨fault, hforms, rfl⟩ := read_eq_error_iff.mp hread
  have hfault := eq_unclosed_of_message hforms ((String.append_right_inj _).mp hmessage)
  subst hfault
  obtain ⟨state, hfold, -, hlists, hpos⟩ := foldlM_of_unclosed hforms
  have hcounts := lists_of_foldlM hfold
  refine ⟨hpos, by omega, ?_, ?_⟩
  · obtain ⟨read, hclosed⟩ := forms_append_closings hforms (Nat.le_refl count)
    rw [if_pos (Nat.sub_self count)] at hclosed
    exact ⟨read, read_eq_ok_iff.mpr hclosed⟩
  · intro added hadded
    obtain ⟨read, hopen⟩ := forms_append_closings hforms (Nat.le_of_lt hadded)
    rw [if_neg (Nat.sub_ne_zero_of_lt hadded)] at hopen
    exact ⟨_, read_eq_error_iff.mpr ⟨_, hopen, rfl⟩, rfl⟩

/-- A quoted list in a list: the quote mark is finished with the form behind it. -/
theorem closing_unclosed_quoted :
    Reader.read 3 [.opening, .quote, .opening] = .error (.syntactic (.unclosed 2)) ∧
      (Error.syntactic (.unclosed 2)).message =
        "SyntaxError: " ++ ("unexpected end of input: " ++ (2).repr ++ " unclosed parenthesis") ∧
      (∃ read, Reader.read 3 [.opening, .quote, .opening, .closing, .closing] = .ok read) ∧
      ∃ remaining, Reader.read 3 [.opening, .quote, .opening, .closing] = .error remaining ∧
        remaining.message = "SyntaxError: " ++ ("unexpected end of input: " ++
          (1).repr ++ " unclosed parenthesis") := by
  have hread : Reader.read 3 [.opening, .quote, .opening] = .error (.syntactic (.unclosed 2)) := rfl
  obtain ⟨-, -, hclosed, hopen⟩ := closing_unclosed 3 _ 2 _ hread rfl
  exact ⟨hread, rfl, hclosed, hopen 1 (by decide)⟩

end Reader

end DraftLisp

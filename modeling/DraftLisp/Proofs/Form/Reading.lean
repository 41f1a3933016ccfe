import DraftLisp.Form.Reader

namespace DraftLisp.Reader

variable {limit : Nat} {state after : State} {token : Token} {tokens : List Token}

theorem begin_eq_ok_iff {next : State} :
    begin limit state next = .ok after ↔ state.openings.length < limit ∧ next = after := by
  unfold begin
  split
  · simp
    omega
  · simp
    omega

/-- The token takes the reader from one state to the other. -/
inductive Steps (limit : Nat) (state : State) : Token → State → Prop
  | opening : state.openings.length < limit →
      Steps limit state .opening ⟨.list [] :: state.openings, state.forms⟩
  | quote : state.openings.length < limit →
      Steps limit state .quote ⟨.quote :: state.openings, state.forms⟩
  | number {value : Float} : state.openings.length < limit →
      Steps limit state (.number value) (deliver (.number value) state.forms state.openings)
  | string {text : String} : state.openings.length < limit →
      Steps limit state (.string text) (deliver (.string text) state.forms state.openings)
  | symbol {name : String} : state.openings.length < limit →
      Steps limit state (.symbol name) (deliver (.symbol name) state.forms state.openings)
  | closing {items : List Form} {outer : List Opening} : state.openings = .list items :: outer →
      Steps limit state .closing (deliver (.list items.reverse) state.forms outer)

theorem step_eq_ok_iff : step limit state token = .ok after ↔ Steps limit state token after := by
  constructor
  · intro h
    cases token with
    | closing =>
        simp only [step] at h
        split at h
        · cases h
          exact .closing ‹_›
        · split at h <;> cases h
    | opening =>
        obtain ⟨hdepth, rfl⟩ := begin_eq_ok_iff.mp h
        exact .opening hdepth
    | quote =>
        obtain ⟨hdepth, rfl⟩ := begin_eq_ok_iff.mp h
        exact .quote hdepth
    | number value =>
        obtain ⟨hdepth, rfl⟩ := begin_eq_ok_iff.mp h
        exact .number hdepth
    | string text =>
        obtain ⟨hdepth, rfl⟩ := begin_eq_ok_iff.mp h
        exact .string hdepth
    | symbol name =>
        obtain ⟨hdepth, rfl⟩ := begin_eq_ok_iff.mp h
        exact .symbol hdepth
  · intro h
    cases h with
    | closing hopenings => simp [step, hopenings]
    | opening hdepth => exact begin_eq_ok_iff.mpr ⟨hdepth, rfl⟩
    | quote hdepth => exact begin_eq_ok_iff.mpr ⟨hdepth, rfl⟩
    | number hdepth => exact begin_eq_ok_iff.mpr ⟨hdepth, rfl⟩
    | string hdepth => exact begin_eq_ok_iff.mpr ⟨hdepth, rfl⟩
    | symbol hdepth => exact begin_eq_ok_iff.mpr ⟨hdepth, rfl⟩

theorem foldlM_cons_of_steps (h : Steps limit state token after) (rest : List Token) :
    (token :: rest).foldlM (step limit) state = rest.foldlM (step limit) after := by
  rw [List.foldlM_cons, step_eq_ok_iff.mpr h]
  rfl

/-- What holds before the first token and is preserved by every step holds behind the last one. -/
theorem holds_of_foldlM {P : List Token → State → Prop} (h : P [] state)
    (hstep : ∀ {read state token after}, P read state → Steps limit state token after →
      P (read ++ [token]) after)
    (hfold : tokens.foldlM (step limit) state = .ok after) : P tokens after := by
  have hrest : ∀ rest read state, P read state → rest.foldlM (step limit) state = .ok after →
      P (read ++ rest) after := by
    intro rest
    induction rest with
    | nil =>
        intro read state h hfold
        cases hfold
        rwa [List.append_nil]
    | cons token rest ih =>
        intro read state h hfold
        rw [List.foldlM_cons] at hfold
        cases hnext : step limit state token with
        | error fault =>
            rw [hnext] at hfold
            cases hfold
        | ok next =>
            rw [hnext] at hfold
            have hbehind := ih _ next (hstep h (step_eq_ok_iff.mp hnext)) hfold
            rwa [List.append_assoc] at hbehind
  exact hrest tokens [] state h hfold

theorem finish_eq_ok_iff {read : List Form} :
    state.finish = .ok read ↔ state.openings = [] ∧ state.forms.reverse = read := by
  unfold State.finish
  split <;> simp [*]

theorem forms_eq_bind (limit : Nat) (tokens : List Token) :
    forms limit tokens = tokens.foldlM (step limit) .start >>= State.finish := by
  unfold forms
  cases tokens.foldlM (step limit) .start <;> rfl

theorem forms_eq_ok_iff {read : List Form} :
    forms limit tokens = .ok read ↔
      ∃ found, tokens.foldlM (step limit) .start = .ok ⟨[], found⟩ ∧ found.reverse = read := by
  unfold forms
  constructor
  · intro h
    split at h
    · rename_i state hfold
      obtain ⟨openings, found⟩ := state
      obtain ⟨rfl, hread⟩ := finish_eq_ok_iff.mp h
      exact ⟨found, hfold, hread⟩
    · cases h
  · rintro ⟨found, hfold, hread⟩
    rw [hfold]
    exact finish_eq_ok_iff.mpr ⟨rfl, hread⟩

/-! ### Faults -/

theorem fault_of_begin {next : State} {fault : SyntaxFault}
    (h : begin limit state next = .error fault) : fault = .nesting limit := by
  unfold begin at h
  split at h
  · cases h
    rfl
  · cases h

theorem fault_of_step {fault : SyntaxFault} (h : step limit state token = .error fault) :
    fault = .nesting limit ∨ fault = .closing := by
  cases token with
  | closing =>
      simp only [step] at h
      split at h
      · cases h
      · split at h
        · cases h
          exact .inl rfl
        · cases h
          exact .inr rfl
  | _ => exact .inl (fault_of_begin h)

theorem fault_of_foldlM {fault : SyntaxFault}
    (h : tokens.foldlM (step limit) state = .error fault) :
    fault = .nesting limit ∨ fault = .closing := by
  induction tokens generalizing state with
  | nil => cases h
  | cons token rest ih =>
      rw [List.foldlM_cons] at h
      cases hnext : step limit state token with
      | error other =>
          rw [hnext] at h
          cases h
          exact fault_of_step hnext
      | ok next =>
          rw [hnext] at h
          exact ih h

theorem fault_of_finish {fault : SyntaxFault} (h : state.finish = .error fault) :
    fault = .quoteAtEnd ∨ ∃ count, fault = .unclosed count := by
  unfold State.finish at h
  split at h
  · cases h
  · cases h
    exact .inl rfl
  · cases h
    exact .inr ⟨_, rfl⟩

/-- A token that cannot stand where it stands is a fault, or else the end of the tokens is. -/
theorem fault_of_forms {fault : SyntaxFault} (h : forms limit tokens = .error fault) :
    (fault = .nesting limit ∨ fault = .closing) ∨
      fault = .quoteAtEnd ∨ ∃ count, fault = .unclosed count := by
  unfold forms at h
  split at h
  · exact .inr (fault_of_finish h)
  · rename_i hfold
    cases h
    exact .inl (fault_of_foldlM hfold)

/-! ### Tokens and texts -/

theorem read_eq_ok_iff {read : List Form} :
    Reader.read limit tokens = .ok read ↔ forms limit tokens = .ok read := by
  unfold Reader.read
  constructor
  · intro h
    cases hforms : forms limit tokens with
    | error fault =>
        rw [hforms] at h
        cases h
    | ok found =>
        rw [hforms] at h
        cases h
        rfl
  · intro h
    rw [h]
    rfl

theorem read_eq_error_iff {error : Error} :
    Reader.read limit tokens = .error error ↔
      ∃ fault, forms limit tokens = .error fault ∧ error = .syntactic fault := by
  unfold Reader.read
  constructor
  · intro h
    cases hforms : forms limit tokens with
    | ok read =>
        rw [hforms] at h
        cases h
    | error fault =>
        rw [hforms] at h
        cases h
        exact ⟨fault, rfl, rfl⟩
  · rintro ⟨fault, hforms, rfl⟩
    rw [hforms]
    rfl

theorem readText_eq_ok_iff {input : String} {read : List Form} :
    readText limit input = .ok read ↔
      ∃ tokens, Token.tokenize input = .ok tokens ∧ forms limit tokens = .ok read := by
  unfold readText
  cases Token.tokenize input with
  | error error => simp
  | ok tokens => simp [read_eq_ok_iff]

end DraftLisp.Reader

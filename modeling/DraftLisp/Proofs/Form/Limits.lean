import DraftLisp.Proofs.Form.Reading

namespace DraftLisp.Reader

variable {small limit : Nat} {state : State} {tokens : List Token}

theorem begin_of_le (hle : small ≤ limit) {next : State}
    (h : begin small state next ≠ .error (.nesting small)) :
    begin limit state next = begin small state next := by
  unfold begin at h ⊢
  split at h
  · exact (h rfl).elim
  · rename_i hdepth
    rw [if_neg hdepth, if_neg (by omega)]

theorem step_of_le (hle : small ≤ limit) {token : Token}
    (h : step small state token ≠ .error (.nesting small)) :
    step limit state token = step small state token := by
  cases token with
  | closing =>
      simp only [step] at h ⊢
      split
      · rfl
      · rename_i hopenings
        split at h
        · exact (hopenings _ _ ‹_›).elim
        · split at h
          · exact (h rfl).elim
          · rename_i hdepth
            rw [if_neg hdepth, if_neg (by omega)]
  | _ => exact begin_of_le hle h

theorem foldlM_of_le (hle : small ≤ limit)
    (h : tokens.foldlM (step small) state ≠ .error (.nesting small)) :
    tokens.foldlM (step limit) state = tokens.foldlM (step small) state := by
  induction tokens generalizing state with
  | nil => rfl
  | cons token rest ih =>
      rw [List.foldlM_cons] at h
      rw [List.foldlM_cons, List.foldlM_cons]
      cases hnext : step small state token with
      | error fault =>
          rw [hnext] at h
          rw [step_of_le hle (by rw [hnext]; exact h), hnext]
          rfl
      | ok next =>
          rw [hnext] at h
          rw [step_of_le hle (by rw [hnext]; exact fun heq => nomatch heq), hnext]
          exact ih h

theorem forms_of_le (hle : small ≤ limit) (h : forms small tokens ≠ .error (.nesting small)) :
    forms limit tokens = forms small tokens := by
  rw [forms_eq_bind] at h
  rw [forms_eq_bind, forms_eq_bind, foldlM_of_le hle]
  intro hfold
  rw [hfold] at h
  exact h rfl

/-- A reader reports no other limit than its own. -/
theorem eq_of_forms_nesting (h : forms limit tokens = .error (.nesting small)) :
    small = limit := by
  rcases fault_of_forms h with (hnesting | hclosing) | hquote | ⟨count, hunclosed⟩
  · exact SyntaxFault.nesting.inj hnesting
  · cases hclosing
  · cases hquote
  · cases hunclosed

variable {input : String}

theorem lex_of_tokenize {error : Error} (h : Token.tokenize input = .error error) :
    ∃ fault offset, error = Token.lexError fault input offset := by
  unfold Token.tokenize at h
  split at h
  · cases h
  · cases h
    exact ⟨_, _, rfl⟩

theorem readText_eq_nesting_iff :
    readText limit input = .error (.syntactic (.nesting small)) ↔
      ∃ tokens, Token.tokenize input = .ok tokens ∧
        forms limit tokens = .error (.nesting small) := by
  unfold readText
  cases htokens : Token.tokenize input with
  | error error =>
      obtain ⟨fault, offset, rfl⟩ := lex_of_tokenize htokens
      simp [Token.lexError]
  | ok tokens => simp [read_eq_error_iff]

theorem readText_of_le (hle : small ≤ limit)
    (h : readText small input ≠ .error (.syntactic (.nesting small))) :
    readText limit input = readText small input := by
  unfold readText
  cases htokens : Token.tokenize input with
  | error error => rfl
  | ok tokens =>
      have hforms : forms small tokens ≠ .error (.nesting small) := fun hnesting =>
        h (readText_eq_nesting_iff.mpr ⟨tokens, htokens, hnesting⟩)
      exact congrArg (Except.mapError Error.syntactic) (forms_of_le hle hforms)

/-- Only what nests as deep as the smaller limit is read differently below two limits. -/
theorem readText_eq_readText_iff (limit other : Nat) (input : String) :
    readText limit input = readText other input ↔
      limit = other ∨
        readText (min limit other) input ≠ .error (.syntactic (.nesting (min limit other))) := by
  constructor
  · intro hsame
    by_cases hnesting : readText (min limit other) input =
        .error (.syntactic (.nesting (min limit other)))
    · have hlimits : readText limit input = .error (.syntactic (.nesting (min limit other))) ∧
          readText other input = .error (.syntactic (.nesting (min limit other))) := by
        rcases Nat.le_total limit other with hle | hle
        · rw [Nat.min_eq_left hle] at hnesting ⊢
          exact ⟨hnesting, hsame ▸ hnesting⟩
        · rw [Nat.min_eq_right hle] at hnesting ⊢
          exact ⟨hsame.symm ▸ hnesting, hnesting⟩
      obtain ⟨_, -, hfirst⟩ := readText_eq_nesting_iff.mp hlimits.1
      obtain ⟨_, -, hsecond⟩ := readText_eq_nesting_iff.mp hlimits.2
      exact .inl ((eq_of_forms_nesting hfirst).symm.trans (eq_of_forms_nesting hsecond))
    · exact .inr hnesting
  · rintro (rfl | h)
    · rfl
    · exact (readText_of_le (Nat.min_le_left limit other) h).trans
        (readText_of_le (Nat.min_le_right limit other) h).symm

end DraftLisp.Reader

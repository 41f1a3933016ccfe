import DraftLisp.Proofs.Form.Reading
import DraftLisp.Proofs.Token.Lexemes

namespace DraftLisp

namespace Token

theorem stops_line {chars : List Char} (h : Stops chars) (more : List Char) :
    Stops (chars ++ '\n' :: more) := by
  cases chars with
  | nil => exact (by decide : isDelimiter '\n' = true)
  | cons c chars => exact h

theorem endsLine_line {chars : List Char} (h : EndsLine chars) (more : List Char) :
    EndsLine (chars ++ '\n' :: more) := by
  cases chars with
  | nil => exact (rfl : '\n' = '\n')
  | cons c chars => exact h

/-- A line feed ends comments and atoms, so that nothing of the text reaches beyond it. -/
theorem Lexes.line {chars : List Char} {tokens : List Token} (h : Lexes [] chars tokens)
    (more : List Char) : Lexes ('\n' :: more) (chars ++ '\n' :: more) tokens := by
  induction h with
  | done => exact .done
  | gap hgap _ ih => exact .gap hgap ih
  | comment hbody hend _ ih =>
      have hcomment := Lexes.comment hbody (endsLine_line hend more) ih
      simpa using hcomment
  | lexeme hlexeme _ ih =>
      have hcongr := hlexeme.congr fun hstops => stops_line hstops more
      simpa using Lexes.lexeme hcongr ih

theorem scan_line {first : List Char} {tokens : List Token} (h : scan first = .ok tokens)
    (second : List Char) :
    scan (first ++ '\n' :: second) = (scan second).map (tokens ++ ·) := by
  have hline := (scan_eq_ok_iff.mp h).line second
  have hfeed : scan ('\n' :: second) = scan second := scan_congr (skipGaps_gap rfl second)
  rw [hline.scan_eq, hfeed]

theorem toList_line (first second : String) :
    (first ++ "\n" ++ second).toList = first.toList ++ '\n' :: second.toList := by
  simp

theorem tokenize_line {first second : String} {tokens others : List Token}
    (hfirst : tokenize first = .ok tokens) (hsecond : tokenize second = .ok others) :
    tokenize (first ++ "\n" ++ second) = .ok (tokens ++ others) := by
  rw [tokenize_eq_ok_iff] at hfirst hsecond ⊢
  rw [toList_line, scan_line hfirst, hsecond]
  rfl

/-- The place of a fault is counted from the start of the joined text. -/
theorem tokenize_line_error {first second : String} {tokens : List Token} {error : Error}
    (hfirst : tokenize first = .ok tokens) (hsecond : tokenize second = .error error) :
    ∃ fault offset, error = lexError fault second offset ∧
      tokenize (first ++ "\n" ++ second) =
        .error (lexError fault (first ++ "\n" ++ second) (first.utf8ByteSize + 1 + offset)) := by
  obtain ⟨before, after, fault, rfl, hscan, rfl⟩ := tokenize_eq_error_iff.mp hsecond
  refine ⟨fault, before.utf8ByteSize, rfl, tokenize_eq_error_iff.mpr ?_⟩
  refine ⟨first ++ "\n" ++ before, after, fault, by simp [String.append_assoc], ?_, ?_⟩
  · rw [toList_line, scan_line (tokenize_eq_ok_iff.mp hfirst), hscan]
    rfl
  · rw [String.utf8ByteSize_append, String.utf8ByteSize_append]
    rfl

end Token

namespace Reader

variable {limit : Nat} {tokens : List Token} {read : List Form}

/-- The state as it is when the forms, newest first, have been read before. -/
def State.behind (state : State) (read : List Form) : State :=
  { state with forms := state.forms ++ read }

theorem deliver_append (form : Form) (forms read : List Form) (openings : List Opening) :
    deliver form (forms ++ read) openings = (deliver form forms openings).behind read := by
  induction openings generalizing form with
  | nil => rfl
  | cons opening outer ih =>
      cases opening with
      | quote => exact ih form.quoted
      | list items => rfl

theorem begin_behind (state next : State) (read : List Form) :
    begin limit (state.behind read) (next.behind read) =
      (begin limit state next).map (·.behind read) := by
  unfold begin State.behind
  split <;> rfl

theorem begin_deliver_behind (state : State) (form : Form) (read : List Form) :
    begin limit (state.behind read)
        (deliver form (state.behind read).forms (state.behind read).openings) =
      (begin limit state (deliver form state.forms state.openings)).map (·.behind read) := by
  rw [← begin_behind, ← deliver_append]
  rfl

theorem step_closing_eq_error {openings : List Opening}
    (h : ∀ items outer, openings ≠ .list items :: outer) (forms : List Form) :
    step limit ⟨openings, forms⟩ .closing =
      .error (if limit ≤ openings.length then .nesting limit else .closing) := by
  rcases openings with _ | ⟨items | _, outer⟩
  · exact (apply_ite Except.error (limit ≤ 0) _ _).symm
  · exact (h items outer rfl).elim
  · exact (apply_ite Except.error (limit ≤ outer.length + 1) _ _).symm

theorem step_behind (state : State) (token : Token) (read : List Form) :
    step limit (state.behind read) token = (step limit state token).map (·.behind read) := by
  cases token with
  | opening => exact begin_behind state ⟨.list [] :: state.openings, state.forms⟩ read
  | quote => exact begin_behind state ⟨.quote :: state.openings, state.forms⟩ read
  | number value => exact begin_deliver_behind state (.number value) read
  | string text => exact begin_deliver_behind state (.string text) read
  | symbol name => exact begin_deliver_behind state (.symbol name) read
  | closing =>
      obtain ⟨openings, forms⟩ := state
      by_cases hlist : ∃ items outer, openings = .list items :: outer
      · obtain ⟨items, outer, rfl⟩ := hlist
        exact congrArg Except.ok (deliver_append (.list items.reverse) forms read outer)
      · have hrefused : ∀ items outer, openings ≠ .list items :: outer :=
          fun items outer heq => hlist ⟨items, outer, heq⟩
        rw [State.behind, step_closing_eq_error hrefused, step_closing_eq_error hrefused]
        rfl

theorem foldlM_behind (state : State) (tokens : List Token) (read : List Form) :
    tokens.foldlM (step limit) (state.behind read) =
      (tokens.foldlM (step limit) state).map (·.behind read) := by
  induction tokens generalizing state with
  | nil => rfl
  | cons token rest ih =>
      rw [List.foldlM_cons, List.foldlM_cons, step_behind]
      cases step limit state token with
      | error fault => rfl
      | ok next => exact ih next

theorem finish_behind (state : State) (read : List Form) :
    (state.behind read).finish = state.finish.map (read.reverse ++ ·) := by
  obtain ⟨openings, forms⟩ := state
  rcases openings with _ | ⟨_ | _, outer⟩
  · simp [State.finish, State.behind, Except.map]
  · rfl
  · rfl

/-- Behind whole forms the reader is as it was at the start. -/
theorem forms_append (h : forms limit tokens = .ok read) (others : List Token) :
    forms limit (tokens ++ others) = (forms limit others).map (read ++ ·) := by
  obtain ⟨found, hfold, rfl⟩ := forms_eq_ok_iff.mp h
  have hothers : others.foldlM (step limit) ⟨[], found⟩ =
      (others.foldlM (step limit) .start).map (·.behind found) :=
    foldlM_behind .start others found
  rw [forms_eq_bind, forms_eq_bind, List.foldlM_append, hfold]
  change others.foldlM (step limit) ⟨[], found⟩ >>= State.finish = _
  rw [hothers]
  cases others.foldlM (step limit) .start with
  | error fault => rfl
  | ok state => exact finish_behind state found

theorem read_append (h : Reader.read limit tokens = .ok read) (others : List Token) :
    Reader.read limit (tokens ++ others) = (Reader.read limit others).map (read ++ ·) := by
  unfold Reader.read
  rw [forms_append (read_eq_ok_iff.mp h)]
  cases forms limit others <;> rfl

theorem error_of_read {error : Error} (h : Reader.read limit tokens = .error error) :
    ∃ fault, error = .syntactic fault := by
  unfold Reader.read at h
  cases hforms : forms limit tokens with
  | ok read =>
      rw [hforms] at h
      cases h
  | error fault =>
      rw [hforms] at h
      cases h
      exact ⟨fault, rfl⟩

theorem readText_line {first second : String} {others : List Form}
    (hfirst : readText limit first = .ok read) (hsecond : readText limit second = .ok others) :
    readText limit (first ++ "\n" ++ second) = .ok (read ++ others) := by
  rw [readText_eq_ok_iff] at hfirst hsecond ⊢
  obtain ⟨tokens, htokens, hread⟩ := hfirst
  obtain ⟨behind, hbehind, hothers⟩ := hsecond
  refine ⟨tokens ++ behind, Token.tokenize_line htokens hbehind, ?_⟩
  rw [forms_append hread, hothers]
  rfl

/-- Lines that cannot be read make the joined text one that cannot be read. -/
theorem readText_line_error {first second : String} {error : Error}
    (hfirst : readText limit first = .ok read) (hsecond : readText limit second = .error error) :
    ∃ fault, readText limit (first ++ "\n" ++ second) = .error fault := by
  obtain ⟨tokens, htokens, hread⟩ := readText_eq_ok_iff.mp hfirst
  unfold readText at hsecond ⊢
  cases hbehind : Token.tokenize second with
  | error other =>
      obtain ⟨fault, offset, -, hline⟩ := Token.tokenize_line_error htokens hbehind
      rw [hline]
      exact ⟨_, rfl⟩
  | ok behind =>
      simp only [hbehind] at hsecond
      rw [Token.tokenize_line htokens hbehind]
      refine ⟨error, ?_⟩
      change Reader.read limit (tokens ++ behind) = .error error
      rw [read_append (read_eq_ok_iff.mpr hread), hsecond]
      rfl

/-- Reading is a homomorphism: lines behind a text that is split into tokens are split as they are
alone, and tokens behind whole forms are read as they are alone. The faults are those of the second
part, counted from the start of the whole. -/
theorem reads_in_parts :
    (∀ first second tokens, Token.tokenize first = .ok tokens →
      (∀ others, Token.tokenize second = .ok others →
        Token.tokenize (first ++ "\n" ++ second) = .ok (tokens ++ others)) ∧
      ∀ error, Token.tokenize second = .error error →
        ∃ fault offset, error = Token.lexError fault second offset ∧
          Token.tokenize (first ++ "\n" ++ second) =
            .error (Token.lexError fault (first ++ "\n" ++ second)
              (first.utf8ByteSize + 1 + offset))) ∧
    ∀ limit tokens others read, Reader.read limit tokens = .ok read →
      (∀ read', Reader.read limit others = .ok read' →
        Reader.read limit (tokens ++ others) = .ok (read ++ read')) ∧
      ∀ error, Reader.read limit others = .error error →
        (∃ fault, error = .syntactic fault) ∧
          Reader.read limit (tokens ++ others) = .error error := by
  refine ⟨fun first second tokens hfirst => ⟨?_, ?_⟩,
    fun limit tokens others read hread => ⟨?_, ?_⟩⟩
  · exact fun others hsecond => Token.tokenize_line hfirst hsecond
  · exact fun error hsecond => Token.tokenize_line_error hfirst hsecond
  · intro read' hothers
    rw [read_append hread, hothers]
    rfl
  · intro error hothers
    refine ⟨error_of_read hothers, ?_⟩
    rw [read_append hread, hothers]
    rfl

/-- The comment on the first line does not reach the parenthesis on the second one. -/
theorem reads_in_parts_comment :
    Token.tokenize "(a ;" = .ok [.opening, .symbol "A"] ∧
      Token.tokenize ")" = .ok [.closing] ∧
      Token.tokenize ("(a ;" ++ "\n" ++ ")") = .ok [.opening, .symbol "A", .closing] ∧
      Reader.read 1 [.opening, .closing] = .ok [.list []] ∧
      Reader.read 1 [.opening] = .error (.syntactic (.unclosed 1)) ∧
      Reader.read 1 [.opening, .closing, .opening] = .error (.syntactic (.unclosed 1)) := by
  have hname : Token.ofAtom ['a'] = .symbol "A" := by decide +kernel
  have hskip : Token.skipGaps false [' ', ';'] = Token.skipGaps false [] := rfl
  have hgaps : Token.scan [' ', ';'] = .ok [] := by
    rw [Token.scan_congr hskip, Token.scan_nil]
  have hfirst : Token.tokenize "(a ;" = .ok [.opening, .symbol "A"] := by
    rw [Token.tokenize_eq_ok_iff, ← hname]
    exact Token.scan_cons rfl rfl (Token.scan_cons rfl rfl hgaps)
  have hsecond : Token.tokenize ")" = .ok [.closing] :=
    Token.tokenize_eq_ok_iff.mpr (Token.scan_cons rfl rfl Token.scan_nil)
  have hread : Reader.read 1 [.opening, .closing] = .ok [.list []] := rfl
  have hothers : Reader.read 1 [.opening] = .error (.syntactic (.unclosed 1)) := rfl
  obtain ⟨htexts, htokens⟩ := reads_in_parts
  exact ⟨hfirst, hsecond, (htexts _ _ _ hfirst).1 _ hsecond, hread, hothers,
    ((htokens 1 _ _ _ hread).2 _ hothers).2⟩

end Reader

end DraftLisp

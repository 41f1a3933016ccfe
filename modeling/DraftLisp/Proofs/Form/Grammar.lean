import DraftLisp.Proofs.Form.Reading

/-!
The grammar of programs. A phrase is a number, a string, a symbol, a phrase behind a quote mark, or
phrases between parentheses; so phrases are the derivations of the grammar.
-/

namespace DraftLisp.Reader

inductive Phrase where
  | number (value : Float)
  | string (text : String)
  | symbol (name : String)
  | quoted (inner : Phrase)
  | list (items : List Phrase)

namespace Phrase

theorem induction {P : Phrase → Prop} (number : ∀ value, P (.number value))
    (string : ∀ text, P (.string text)) (symbol : ∀ name, P (.symbol name))
    (quoted : ∀ inner, P inner → P (.quoted inner))
    (list : ∀ items, (∀ item ∈ items, P item) → P (.list items)) : ∀ phrase, P phrase
  | .number value => number value
  | .string text => string text
  | .symbol name => symbol name
  | .quoted inner => quoted inner (induction number string symbol quoted list inner)
  | .list items => list items fun item _ => induction number string symbol quoted list item

mutual

def tokens : Phrase → List Token
  | .number value => [.number value]
  | .string text => [.string text]
  | .symbol name => [.symbol name]
  | .quoted inner => .quote :: inner.tokens
  | .list items => .opening :: (itemTokens items ++ [.closing])

def itemTokens : List Phrase → List Token
  | [] => []
  | phrase :: rest => phrase.tokens ++ itemTokens rest

end

mutual

/-- The form that the phrase stands for. -/
def form : Phrase → Form
  | .number value => .number value
  | .string text => .string text
  | .symbol name => .symbol name
  | .quoted inner => inner.form.quoted
  | .list items => .list (itemForms items)

def itemForms : List Phrase → List Form
  | [] => []
  | phrase :: rest => phrase.form :: itemForms rest

end

/-- The phrase and all in it lie at depths below the limit: what stands in a list or behind a quote
mark lies one deeper than the list or the mark. -/
inductive Below (limit : Nat) : Nat → Phrase → Prop
  | number {depth : Nat} {value : Float} : depth < limit → Below limit depth (.number value)
  | string {depth : Nat} {text : String} : depth < limit → Below limit depth (.string text)
  | symbol {depth : Nat} {name : String} : depth < limit → Below limit depth (.symbol name)
  | quoted {depth : Nat} {inner : Phrase} :
      depth < limit → Below limit (depth + 1) inner → Below limit depth (.quoted inner)
  | list {depth : Nat} {items : List Phrase} :
      depth < limit → (∀ item ∈ items, Below limit (depth + 1) item) →
      Below limit depth (.list items)

theorem itemTokens_eq_flatMap (items : List Phrase) : itemTokens items = items.flatMap tokens := by
  induction items with
  | nil => rfl
  | cons phrase rest ih => rw [itemTokens, ih, List.flatMap_cons]

theorem itemForms_eq_map (items : List Phrase) : itemForms items = items.map form := by
  induction items with
  | nil => rfl
  | cons phrase rest ih => rw [itemForms, ih, List.map_cons]

theorem Below.mono {limit greater depth : Nat} {phrase : Phrase} (hle : limit ≤ greater)
    (h : Below limit depth phrase) : Below greater depth phrase := by
  induction h with
  | number hdepth => exact .number (Nat.lt_of_lt_of_le hdepth hle)
  | string hdepth => exact .string (Nat.lt_of_lt_of_le hdepth hle)
  | symbol hdepth => exact .symbol (Nat.lt_of_lt_of_le hdepth hle)
  | quoted hdepth _ ih => exact .quoted (Nat.lt_of_lt_of_le hdepth hle) ih
  | list hdepth _ ih => exact .list (Nat.lt_of_lt_of_le hdepth hle) ih

/-! ### Tokens come from one row of phrases -/

theorem tokens_append_ne_closing (phrase : Phrase) (after rest : List Token) :
    phrase.tokens ++ after ≠ .closing :: rest := by
  cases phrase <;> simp [tokens]

/-- The tokens of a phrase show where it ends. -/
def Delimited (phrase : Phrase) : Prop :=
  ∀ (other : Phrase) (after rest : List Token), phrase.tokens ++ after = other.tokens ++ rest →
    phrase = other ∧ after = rest

/-- The closing parenthesis shows where the items of a list end. -/
theorem items_eq_of_closing {items others : List Phrase} (hitems : ∀ item ∈ items, item.Delimited)
    {after rest : List Token}
    (h : items.flatMap tokens ++ .closing :: after = others.flatMap tokens ++ .closing :: rest) :
    items = others ∧ after = rest := by
  induction items generalizing others with
  | nil =>
      cases others with
      | nil => exact ⟨rfl, (List.cons.inj h).2⟩
      | cons other others =>
          rw [List.flatMap_cons, List.append_assoc] at h
          exact (tokens_append_ne_closing other _ _ h.symm).elim
  | cons item items ih =>
      cases others with
      | nil =>
          rw [List.flatMap_cons, List.append_assoc] at h
          exact (tokens_append_ne_closing item _ _ h).elim
      | cons other others =>
          rw [List.flatMap_cons, List.flatMap_cons, List.append_assoc, List.append_assoc] at h
          obtain ⟨rfl, hbehind⟩ := hitems item List.mem_cons_self other _ _ h
          obtain ⟨rfl, hafter⟩ :=
            ih (fun item hitem => hitems item (List.mem_cons_of_mem _ hitem)) hbehind
          exact ⟨rfl, hafter⟩

theorem delimited (phrase : Phrase) : phrase.Delimited := by
  induction phrase using Phrase.induction with
  | number value =>
      intro other after rest h
      cases other <;> simp_all [tokens]
  | string text =>
      intro other after rest h
      cases other <;> simp_all [tokens]
  | symbol name =>
      intro other after rest h
      cases other <;> simp_all [tokens]
  | quoted inner ih =>
      intro other after rest h
      cases other with
      | quoted other =>
          obtain ⟨rfl, hafter⟩ := ih other after rest (List.cons.inj h).2
          exact ⟨rfl, hafter⟩
      | _ => simp [tokens] at h
  | list items ih =>
      intro other after rest h
      cases other with
      | list others =>
          simp only [tokens, itemTokens_eq_flatMap, List.cons_append, List.append_assoc,
            List.nil_append, List.cons.injEq, true_and] at h
          obtain ⟨rfl, hafter⟩ := items_eq_of_closing ih h
          exact ⟨rfl, hafter⟩
      | _ => simp [tokens] at h

theorem eq_of_flatMap_tokens {phrases others : List Phrase}
    (h : phrases.flatMap tokens = others.flatMap tokens) : phrases = others :=
  (items_eq_of_closing (fun phrase _ => phrase.delimited)
    (congrArg (· ++ [Token.closing]) h)).1

end Phrase

/-! ### Phrases are read -/

variable {limit depth : Nat}

/-- The reader goes through the tokens at a depth and delivers the form. -/
def Delivers (limit : Nat) (tokens : List Token) (form : Form) (depth : Nat) : Prop :=
  ∀ state : State, state.openings.length = depth →
    tokens.foldlM (step limit) state = .ok (deliver form state.forms state.openings)

theorem delivers_atom {token : Token} {form : Form}
    (h : ∀ state : State, state.openings.length = depth →
      Steps limit state token (deliver form state.forms state.openings)) :
    Delivers limit [token] form depth := by
  intro state hstate
  rw [foldlM_cons_of_steps (h state hstate)]
  rfl

theorem delivers_quoted {tokens : List Token} {form : Form} (hdepth : depth < limit)
    (h : Delivers limit tokens form (depth + 1)) :
    Delivers limit (.quote :: tokens) form.quoted depth := by
  rintro state rfl
  rw [foldlM_cons_of_steps (.quote hdepth)]
  exact h _ rfl

section

variable {ι : Type} {tokens : ι → List Token} {form : ι → Form} {items : List ι}

/-- Forms in a row go, newest first, to the place where the reader keeps what it has read. -/
theorem foldlM_flatMap (place : List Form → State)
    (hplace : ∀ form read, deliver form (place read).forms (place read).openings =
      place (form :: read))
    (h : ∀ item ∈ items, ∀ read,
      Delivers limit (tokens item) (form item) (place read).openings.length)
    (read : List Form) :
    (items.flatMap tokens).foldlM (step limit) (place read) =
      .ok (place ((items.map form).reverse ++ read)) := by
  induction items generalizing read with
  | nil => rfl
  | cons item items ih =>
      have hitem := h item List.mem_cons_self read (place read) rfl
      have hrest := ih (fun other hother => h other (List.mem_cons_of_mem _ hother))
        (form item :: read)
      rw [hplace] at hitem
      rw [List.flatMap_cons, List.foldlM_append, hitem]
      change (items.flatMap tokens).foldlM (step limit) (place (form item :: read)) = _
      rw [hrest, List.map_cons, List.reverse_cons, List.append_assoc]
      rfl

theorem delivers_list (hdepth : depth < limit)
    (h : ∀ item ∈ items, Delivers limit (tokens item) (form item) (depth + 1)) :
    Delivers limit (.opening :: (items.flatMap tokens ++ [.closing])) (.list (items.map form))
      depth := by
  rintro state rfl
  have hitems := foldlM_flatMap (fun read => ⟨.list read :: state.openings, state.forms⟩)
    (fun _ _ => rfl) (fun item hitem _ => h item hitem) []
  rw [foldlM_cons_of_steps (.opening hdepth), List.foldlM_append, hitems, List.append_nil]
  change [Token.closing].foldlM (step limit)
    ⟨.list (items.map form).reverse :: state.openings, state.forms⟩ = _
  rw [foldlM_cons_of_steps (.closing rfl), List.reverse_reverse]
  rfl

theorem forms_flatMap (h : ∀ item ∈ items, Delivers limit (tokens item) (form item) 0) :
    forms limit (items.flatMap tokens) = .ok (items.map form) := by
  have hfold := foldlM_flatMap (fun read => ⟨[], read⟩) (fun _ _ => rfl)
    (fun item hitem _ => h item hitem) []
  rw [List.append_nil] at hfold
  exact forms_eq_ok_iff.mpr ⟨_, hfold, List.reverse_reverse _⟩

end

theorem Phrase.Below.delivers {phrase : Phrase} (h : phrase.Below limit depth) :
    Delivers limit phrase.tokens phrase.form depth := by
  induction h with
  | number hdepth => exact delivers_atom fun state hstate => .number (hstate ▸ hdepth)
  | string hdepth => exact delivers_atom fun state hstate => .string (hstate ▸ hdepth)
  | symbol hdepth => exact delivers_atom fun state hstate => .symbol (hstate ▸ hdepth)
  | quoted hdepth _ ih => exact delivers_quoted hdepth ih
  | list hdepth _ ih =>
      rw [tokens, form, itemTokens_eq_flatMap, itemForms_eq_map]
      exact delivers_list hdepth ih

/-! ### What is read are phrases -/

/-- The tokens that have brought the reader to a state: whole phrases, and for every opening its
token and the phrases behind it. -/
inductive Spent (limit : Nat) : List Token → State → Prop
  | phrases {phrases : List Phrase} : (∀ phrase ∈ phrases, phrase.Below limit 0) →
      Spent limit (phrases.flatMap Phrase.tokens) ⟨[], (phrases.map Phrase.form).reverse⟩
  | quote {before : List Token} {state : State} : state.openings.length < limit →
      Spent limit before state →
      Spent limit (before ++ [.quote]) ⟨.quote :: state.openings, state.forms⟩
  | list {before : List Token} {state : State} {phrases : List Phrase} :
      state.openings.length < limit →
      (∀ phrase ∈ phrases, phrase.Below limit (state.openings.length + 1)) →
      Spent limit before state →
      Spent limit (before ++ .opening :: phrases.flatMap Phrase.tokens)
        ⟨.list (phrases.map Phrase.form).reverse :: state.openings, state.forms⟩

theorem spent_deliver {before : List Token} {state : State} {phrase : Phrase}
    (h : Spent limit before state) (hphrase : phrase.Below limit state.openings.length) :
    Spent limit (before ++ phrase.tokens) (deliver phrase.form state.forms state.openings) := by
  induction h generalizing phrase with
  | @phrases phrases hphrases =>
      have hall : ∀ other ∈ phrases ++ [phrase], other.Below limit 0 :=
        List.forall_mem_append.mpr ⟨hphrases, List.forall_mem_singleton.mpr hphrase⟩
      simpa [deliver] using Spent.phrases hall
  | quote hdepth _ ih =>
      have hquoted := ih (.quoted hdepth hphrase)
      simpa [Phrase.tokens, Phrase.form, deliver] using hquoted
  | @list before state phrases hdepth hphrases hbefore ih =>
      have hall : ∀ other ∈ phrases ++ [phrase], other.Below limit (state.openings.length + 1) :=
        List.forall_mem_append.mpr ⟨hphrases, List.forall_mem_singleton.mpr hphrase⟩
      simpa [deliver] using Spent.list hdepth hall hbefore

theorem spent_step {before : List Token} {state after : State} {token : Token}
    (h : Spent limit before state) (hstep : Steps limit state token after) :
    Spent limit (before ++ [token]) after := by
  cases hstep with
  | opening hdepth => exact @Spent.list limit before state [] hdepth (by simp) h
  | quote hdepth => exact .quote hdepth h
  | number hdepth => exact spent_deliver h (.number hdepth)
  | string hdepth => exact spent_deliver h (.string hdepth)
  | symbol hdepth => exact spent_deliver h (.symbol hdepth)
  | closing hopenings =>
      cases h with
      | phrases _ => cases hopenings
      | quote _ _ => cases hopenings
      | list hdepth hphrases hbefore =>
          cases hopenings
          have hlist := spent_deliver hbefore (.list hdepth hphrases)
          simpa [Phrase.tokens, Phrase.form, Phrase.itemTokens_eq_flatMap,
            Phrase.itemForms_eq_map] using hlist

/-- The phrases derive the forms from all of the tokens, below the limit. -/
structure Derives (limit : Nat) (tokens : List Token) (phrases : List Phrase)
    (read : List Form) : Prop where
  tokens : phrases.flatMap Phrase.tokens = tokens
  forms : phrases.map Phrase.form = read
  below : ∀ phrase ∈ phrases, phrase.Below limit 0

theorem forms_eq_ok_iff_derives {tokens : List Token} {read : List Form} :
    forms limit tokens = .ok read ↔ ∃ phrases, Derives limit tokens phrases read := by
  constructor
  · intro h
    obtain ⟨found, hfold, rfl⟩ := forms_eq_ok_iff.mp h
    have hstart : Spent limit [] .start := @Spent.phrases limit [] (by simp)
    have hspent := holds_of_foldlM hstart spent_step hfold
    cases hspent with
    | phrases hphrases => exact ⟨_, rfl, (List.reverse_reverse _).symm, hphrases⟩
  · rintro ⟨phrases, rfl, rfl, hbelow⟩
    exact forms_flatMap fun phrase hphrase => (hbelow phrase hphrase).delivers

theorem Derives.mono {greater : Nat} {tokens : List Token} {phrases : List Phrase}
    {read : List Form} (hle : limit ≤ greater) (h : Derives limit tokens phrases read) :
    Derives greater tokens phrases read :=
  ⟨h.tokens, h.forms, fun phrase hphrase => (h.below phrase hphrase).mono hle⟩

/-- The reader accepts exactly the token lists that the grammar derives below the limit. They have
one derivation only, and a greater limit changes nothing about what is accepted. -/
theorem read_iff_derives (tokens : List Token) :
    (∀ limit read, Reader.read limit tokens = .ok read ↔
      ∃ phrases, Derives limit tokens phrases read) ∧
    (∀ limit phrases read limit' phrases' read', Derives limit tokens phrases read →
      Derives limit' tokens phrases' read' → phrases = phrases' ∧ read = read') ∧
    ∀ limit greater read, limit ≤ greater → Reader.read limit tokens = .ok read →
      Reader.read greater tokens = .ok read := by
  have hread (limit : Nat) (read : List Form) : Reader.read limit tokens = .ok read ↔
      ∃ phrases, Derives limit tokens phrases read :=
    read_eq_ok_iff.trans forms_eq_ok_iff_derives
  refine ⟨hread, ?_, ?_⟩
  · intro limit phrases read limit' phrases' read' h h'
    obtain rfl := Phrase.eq_of_flatMap_tokens (h.tokens.trans h'.tokens.symm)
    exact ⟨rfl, h.forms.symm.trans h'.forms⟩
  · intro limit greater read hle h
    obtain ⟨phrases, hderives⟩ := (hread limit read).mp h
    exact (hread greater read).mpr ⟨phrases, hderives.mono hle⟩

end DraftLisp.Reader

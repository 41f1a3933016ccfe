import DraftLisp.Proofs.Token.Lexemes

namespace DraftLisp

namespace Excerpt

/-- A window in a text that consists of the characters before a place and those from there on. It is
limited and starts at most `lead` characters before the place. -/
structure Window (before after skipped shown rest : List Char) : Prop where
  split : before ++ after = skipped ++ shown ++ rest
  limited : shown.length ≤ width
  near : before.length ≤ skipped.length + lead

/-- The place behind the characters is in the window. -/
def Contains (before skipped shown : List Char) : Prop :=
  skipped.length ≤ before.length ∧ before.length < skipped.length + shown.length

/-- What a window shows, on one line and with the marks that are wanted. -/
def framed (leading trailing : Bool) (shown : List Char) : String :=
  String.ofList (onOneLine
    ((if leading then ellipsis else []) ++ shown ++ (if trailing then ellipsis else [])))

/-- The excerpt shows the place: a window with the place in it, and a mark at each end where the
text goes on. -/
def Shows (before after : List Char) (excerpt : String) : Prop :=
  ∃ skipped shown rest, Window before after skipped shown rest ∧ Contains before skipped shown ∧
    excerpt = framed (!skipped.isEmpty) (!rest.isEmpty) shown

variable {before after chars : List Char}

theorem byteLength_append (chars others : List Char) :
    byteLength (chars ++ others) = byteLength chars + byteLength others := by
  induction chars with
  | nil => exact (Nat.zero_add _).symm
  | cons c chars ih => rw [List.cons_append, byteLength, byteLength, ih, Nat.add_assoc]

theorem length_le_byteLength (chars : List Char) : chars.length ≤ byteLength chars := by
  induction chars with
  | nil => exact Nat.zero_le _
  | cons c chars ih =>
      have hc := c.utf8Size_pos
      rw [List.length_cons, byteLength]
      omega

theorem length_lt_byteLength_iff :
    chars.length < byteLength chars ↔ chars.any (1 < ·.utf8Size) = true := by
  induction chars with
  | nil => simp [byteLength]
  | cons c chars ih =>
      have hc := c.utf8Size_pos
      have hchars := length_le_byteLength chars
      rw [List.any_cons, Bool.or_eq_true, decide_eq_true_eq, ← ih, List.length_cons, byteLength]
      omega

theorem byteLength_pos_iff : 0 < byteLength chars ↔ (!chars.isEmpty) = true := by
  cases chars with
  | nil => exact iff_of_false (Nat.lt_irrefl 0) Bool.false_ne_true
  | cons c chars => exact iff_of_true (Nat.add_pos_left c.utf8Size_pos _) rfl

/-- What is in front of the window that belongs to an offset, and what is behind it. -/
def skipped (input : List Char) (offset : Nat) : List Char := input.take (start offset)

def rest (input : List Char) (offset : Nat) : List Char := (input.drop (start offset)).drop width

theorem split_window (input : List Char) (offset : Nat) :
    input = skipped input offset ++ window input offset ++ rest input offset := by
  rw [skipped, window, rest, List.append_assoc, List.take_append_drop, List.take_append_drop]

theorem length_skipped (input : List Char) (offset : Nat) :
    (skipped input offset).length = min (start offset) input.length :=
  List.length_take

theorem window_of_place (before after : List Char) :
    Window before after (skipped (before ++ after) (byteLength before))
      (window (before ++ after) (byteLength before))
      (rest (before ++ after) (byteLength before)) := by
  have hbefore := length_le_byteLength before
  constructor
  case split => exact split_window _ _
  case limited => exact length_window_le _ _
  case near =>
    rw [length_skipped, List.length_append, start]
    omega

theorem contains_iff (hafter : after ≠ []) :
    Contains before (skipped (before ++ after) (byteLength before))
        (window (before ++ after) (byteLength before)) ↔
      byteLength before ≤ before.length + lead := by
  have hbefore := length_le_byteLength before
  have hafter := List.length_pos_iff.mpr hafter
  unfold Contains
  rw [length_skipped, window, List.length_take, List.length_drop, List.length_append, start, lead,
    width]
  omega

/-- The start is positive just if something is skipped. -/
theorem start_pos_iff {input : List Char} (hinput : input ≠ []) (offset : Nat) :
    0 < start offset ↔ (!(skipped input offset).isEmpty) = true := by
  have hinput := List.length_pos_iff.mpr hinput
  rw [Bool.not_eq_true', List.isEmpty_eq_false_iff, ← List.length_pos_iff, length_skipped]
  omega

/-- The bytes behind the start in characters include those that the skipped characters have beyond
their first ones. -/
theorem trailing_iff (before after : List Char) :
    start (byteLength before) + byteLength (window (before ++ after) (byteLength before)) <
        byteLength (before ++ after) ↔
      (!(rest (before ++ after) (byteLength before)).isEmpty ||
        (skipped (before ++ after) (byteLength before)).any (1 < ·.utf8Size)) = true := by
  have hbytes := congrArg byteLength (split_window (before ++ after) (byteLength before))
  have hlength := length_skipped (before ++ after) (byteLength before)
  have hskipped := length_le_byteLength (skipped (before ++ after) (byteLength before))
  rw [Bool.or_eq_true, ← byteLength_pos_iff, ← length_lt_byteLength_iff]
  rw [byteLength_append _ (rest _ _), byteLength_append (skipped _ _)] at hbytes
  rcases Nat.lt_or_ge (before ++ after).length (start (byteLength before)) with hlt | hle
  · -- Nothing is left for the window, and the text has more bytes than characters.
    have hdrop : (before ++ after).drop (start (byteLength before)) = [] :=
      List.drop_eq_nil_of_le (Nat.le_of_lt hlt)
    have hwindow : byteLength (window (before ++ after) (byteLength before)) = 0 := by
      rw [window, hdrop, List.take_nil, byteLength]
    have hwhole := byteLength_append before after
    rw [Nat.min_eq_right (Nat.le_of_lt hlt)] at hlength
    unfold start lead at *
    omega
  · rw [Nat.min_eq_left hle] at hlength
    omega

theorem around_eq {input : String} (hinput : input.toList = before ++ after) (hafter : after ≠ []) :
    around input (byteLength before) =
      framed (!(skipped (before ++ after) (byteLength before)).isEmpty)
        (!(rest (before ++ after) (byteLength before)).isEmpty ||
          (skipped (before ++ after) (byteLength before)).any (1 < ·.utf8Size))
        (window (before ++ after) (byteLength before)) := by
  have hne : before ++ after ≠ [] := List.append_ne_nil_of_right_ne_nil before hafter
  unfold around marked framed
  rw [hinput]
  simp only [trailing_iff, start_pos_iff hne]

/-- Where every character takes one byte, nothing is wrong with the place. -/
theorem shows_of_one_byte {input : String} (hinput : input.toList = before ++ after)
    (hafter : after ≠ []) (hbytes : ∀ c ∈ before, c.utf8Size = 1) :
    Shows before after (around input (byteLength before)) := by
  have hlength : ¬before.length < byteLength before := by
    rw [length_lt_byteLength_iff, List.any_eq_true]
    rintro ⟨c, hc, hsize⟩
    rw [hbytes c hc] at hsize
    cases hsize
  have hcontains : byteLength before ≤ before.length + lead := by omega
  refine ⟨_, _, _, window_of_place before after, (contains_iff hafter).mpr hcontains, ?_⟩
  -- The window starts at or before the place.
  have hskipped : (skipped (before ++ after) (byteLength before)).any (1 < ·.utf8Size) = false := by
    rw [skipped, List.take_append_of_le_length (by rw [start]; omega), List.any_eq_false]
    intro c hc hsize
    rw [hbytes c (List.mem_of_mem_take hc)] at hsize
    cases hsize
  rw [around_eq hinput hafter, hskipped, Bool.or_false]

end Excerpt

namespace Token

theorem Refused.ne_nil {fault : LexFault} {chars : List Char} (h : Refused fault chars) :
    chars ≠ [] := by
  rintro rfl
  cases h with
  | unclosed h =>
      obtain ⟨rest, hrest, -⟩ := h
      cases hrest
  | stray h =>
      obtain ⟨c, rest, hrest, -⟩ := h
      cases hrest

/-- A fault is reported at a character of the input. -/
theorem exists_place_of_tokenize {chars : List Char} {error : Error}
    (h : tokenize (String.ofList chars) = .error error) :
    ∃ fault front c back, chars = front ++ c :: back ∧
      error = lexError fault (String.ofList (front ++ c :: back))
        (String.ofList front).utf8ByteSize := by
  obtain ⟨before, after, fault, hsplit, hscan, rfl⟩ := tokenize_eq_error_iff.mp h
  obtain ⟨c, back, hafter⟩ := List.exists_cons_of_ne_nil (scan_eq_error_iff.mp hscan).2.ne_nil
  have hchars : chars = before.toList ++ c :: back := by
    rw [← hafter, ← String.toList_append, ← hsplit, String.toList_ofList]
  exact ⟨fault, before.toList, c, back, hchars, by rw [← hchars, String.ofList_toList]⟩

end Token

namespace Excerpt

/-- The error at a character of an input has an excerpt with a limited window, which starts at most
`lead` characters before it and contains it just if there are at most `lead` more bytes than
characters in front of it. The mark behind the window is right as long as no character in front of
the window takes more than one byte. So everything is right where all characters in front of the
place take one byte. Every error about tokens is reported at a character of its input. -/
theorem lexError_shows (fault : LexFault) (before : List Char) (c : Char) (behind : List Char) :
    (∃ excerpt skipped shown rest,
      Token.lexError fault (String.ofList (before ++ c :: behind))
          (String.ofList before).utf8ByteSize =
        .lex fault (String.ofList before).utf8ByteSize (some excerpt) ∧
      Window before (c :: behind) skipped shown rest ∧
      (Contains before skipped shown ↔
        (String.ofList before).utf8ByteSize ≤ before.length + lead) ∧
      excerpt =
        framed (!skipped.isEmpty) (!rest.isEmpty || skipped.any (1 < ·.utf8Size)) shown ∧
      ((∀ d ∈ before, d.utf8Size = 1) → Shows before (c :: behind) excerpt)) ∧
    ∀ error, Token.tokenize (String.ofList (before ++ c :: behind)) = .error error →
      ∃ fault front d back, before ++ c :: behind = front ++ d :: back ∧
        error = Token.lexError fault (String.ofList (front ++ d :: back))
          (String.ofList front).utf8ByteSize := by
  have hinput : (String.ofList (before ++ c :: behind)).toList = before ++ c :: behind :=
    String.toList_ofList
  have hafter : c :: behind ≠ [] := List.cons_ne_nil c behind
  refine ⟨?_, fun error => Token.exists_place_of_tokenize⟩
  rw [utf8ByteSize_ofList]
  exact ⟨_, _, _, _, rfl, window_of_place before (c :: behind), contains_iff hafter,
    around_eq hinput hafter, shows_of_one_byte hinput hafter⟩

theorem mem_framed {leading trailing : Bool} {shown : List Char} {d : Char} (hd : d ∈ shown)
    (hfeed : d ≠ '\n') (hreturn : d ≠ '\r') :
    d ∈ (framed leading trailing shown).toList := by
  rw [framed, String.toList_ofList, onOneLine, List.mem_flatMap]
  refine ⟨d, List.mem_append_left _ (List.mem_append_right _ hd), ?_⟩
  rw [if_neg hfeed, if_neg hreturn]
  exact List.mem_singleton_self d

/-- Behind many characters of two bytes each nothing is shown at all. -/
theorem not_shows :
    ¬∀ (before : List Char) (c : Char) (behind : List Char),
      Shows before (c :: behind)
        (around (String.ofList (before ++ c :: behind)) (String.ofList before).utf8ByteSize) := by
  intro h
  obtain ⟨skipped, shown, rest, hwindow, hcontains, hexcerpt⟩ := h (List.replicate 21 'é') '"' []
  have hempty : around (String.ofList (List.replicate 21 'é' ++ ['"']))
      (String.ofList (List.replicate 21 'é')).utf8ByteSize = "[...][...]" := by
    rw [utf8ByteSize_ofList]
    decide +kernel
  have hshown : shown ≠ [] := by
    rintro rfl
    exact Nat.not_lt.mpr hcontains.1 hcontains.2
  obtain ⟨d, hd⟩ := List.exists_mem_of_ne_nil shown hshown
  have hinput : d ∈ List.replicate 21 'é' ++ ['"'] := by
    rw [hwindow.split]
    exact List.mem_append_left rest (List.mem_append_right skipped hd)
  have hcase : d = 'é' ∨ d = '"' := by
    rw [List.mem_append, List.mem_singleton] at hinput
    exact hinput.imp_left List.eq_of_mem_replicate
  have hmem : d ∈ (framed (!skipped.isEmpty) (!rest.isEmpty) shown).toList :=
    mem_framed hd (by rcases hcase with rfl | rfl <;> decide)
      (by rcases hcase with rfl | rfl <;> decide)
  rw [← hexcerpt, hempty] at hmem
  rcases hcase with rfl | rfl <;> exact absurd hmem (by decide)

end Excerpt

end DraftLisp

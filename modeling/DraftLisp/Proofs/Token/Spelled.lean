import DraftLisp.Proofs.Token.Canonical

namespace DraftLisp.Token

def Stops : List Char → Prop
  | [] => True
  | c :: _ => isDelimiter c = true

theorem takeWhile_of_stops {rest : List Char} (h : Stops rest) :
    rest.takeWhile (!isDelimiter ·) = [] := by
  cases rest with
  | nil => rfl
  | cons c rest =>
      have hc : isDelimiter c = true := h
      simp [hc]

theorem dropWhile_of_stops {rest : List Char} (h : Stops rest) :
    rest.dropWhile (!isDelimiter ·) = rest := by
  have happend := List.takeWhile_append_dropWhile (p := (!isDelimiter ·)) (l := rest)
  rwa [takeWhile_of_stops h, List.nil_append] at happend

/-- Scanning depends only on what stands behind gaps and comments. -/
theorem scan_congr {chars others : List Char} (h : skipGaps false chars = skipGaps false others) :
    scan chars = scan others := by
  rw [scan.eq_def chars, scan.eq_def others, h]

theorem scan_of_scanOne {chars rest after : List Char} {c : Char} {token : Token}
    (hskip : skipGaps false chars = c :: rest) (hone : scanOne c rest = .ok (token, after)) :
    scan chars = (scan after).map (token :: ·) := by
  rw [scan.eq_def]
  split
  · simp_all
  · rename_i hgaps
    rw [hskip] at hgaps
    cases hgaps
    split
    · simp_all
    · rename_i hother
      rw [hone] at hother
      cases hother
      cases scan after <;> rfl

theorem scan_cons {chars rest after : List Char} {c : Char} {token : Token} {tokens : List Token}
    (hskip : skipGaps false chars = c :: rest) (hone : scanOne c rest = .ok (token, after))
    (hafter : scan after = .ok tokens) : scan chars = .ok (token :: tokens) := by
  rw [scan_of_scanOne hskip hone, hafter]
  rfl

theorem scan_nil : scan [] = .ok [] := by
  rw [scan.eq_def]
  rfl

theorem scan_space (rest : List Char) : scan (' ' :: rest) = scan rest :=
  scan_congr rfl

theorem scan_opening (rest : List Char) :
    scan ('(' :: rest) = (scan rest).map (.opening :: ·) :=
  scan_of_scanOne rfl rfl

theorem scan_closing (rest : List Char) :
    scan (')' :: rest) = (scan rest).map (.closing :: ·) :=
  scan_of_scanOne rfl rfl

theorem scan_encode (text : String) (rest : List Char) :
    scan (Text.Quoted.encode text.toList ++ rest) = (scan rest).map (.string text :: ·) := by
  have hone : scanOne '"' (Text.Quoted.encodeBody text.toList ++ '"' :: rest) =
      .ok (.string text, rest) := by
    unfold scanOne
    rw [Text.Quoted.scan_encodeBody]
    simp
  have hchars : Text.Quoted.encode text.toList ++ rest =
      '"' :: (Text.Quoted.encodeBody text.toList ++ '"' :: rest) := by
    simp [Text.Quoted.encode]
  rw [hchars]
  exact scan_of_scanOne rfl hone

theorem ne_of_not_delimiter {c mark : Char} (hc : isDelimiter c = false)
    (hmark : isDelimiter mark = true) : c ≠ mark := by
  rintro rfl
  rw [hc] at hmark
  cases hmark

theorem skipGaps_of_not_delimiter {c : Char} (hc : isDelimiter c = false) (rest : List Char) :
    skipGaps false (c :: rest) = c :: rest := by
  have hcomment : c ≠ ';' := ne_of_not_delimiter hc (by decide)
  have hgap : isGap c = false := by
    have hspace : c ≠ ' ' := ne_of_not_delimiter hc (by decide)
    have htab : c ≠ '\t' := ne_of_not_delimiter hc (by decide)
    have hreturn : c ≠ '\r' := ne_of_not_delimiter hc (by decide)
    have hfeed : c ≠ '\n' := ne_of_not_delimiter hc (by decide)
    simp [isGap, hspace, htab, hreturn, hfeed]
  simp [skipGaps, hgap, hcomment]

theorem scanOne_of_not_delimiter {c : Char} (hc : isDelimiter c = false) (rest : List Char) :
    scanOne c rest =
      .ok (ofAtom (c :: rest.takeWhile (!isDelimiter ·)), rest.dropWhile (!isDelimiter ·)) := by
  have hopening : c ≠ '(' := ne_of_not_delimiter hc (by decide)
  have hclosing : c ≠ ')' := ne_of_not_delimiter hc (by decide)
  have hquote : c ≠ '\'' := ne_of_not_delimiter hc (by decide)
  have hstring : c ≠ '"' := ne_of_not_delimiter hc (by decide)
  simp [scanOne, hopening, hclosing, hquote, hstring, hc]

theorem scan_atom {chars rest : List Char} (h : Atomic chars) (hrest : Stops rest) :
    scan (chars ++ rest) = (scan rest).map (ofAtom chars :: ·) := by
  obtain ⟨c, tail, rfl⟩ := List.exists_cons_of_ne_nil h.ne_nil
  have hc := h.plain c List.mem_cons_self
  have htail : ∀ other ∈ tail, (!isDelimiter other) = true := by
    intro other hother
    rw [h.plain other (List.mem_cons_of_mem _ hother)]
    rfl
  have hone := scanOne_of_not_delimiter hc (tail ++ rest)
  rw [List.takeWhile_append_of_pos htail, List.dropWhile_append_of_pos htail,
    takeWhile_of_stops hrest, dropWhile_of_stops hrest, List.append_nil] at hone
  exact scan_of_scanOne (skipGaps_of_not_delimiter hc _) hone

theorem scan_name {name : String} (h : IsName name) {rest : List Char} (hrest : Stops rest) :
    scan (name.toList ++ rest) = (scan rest).map (.symbol name :: ·) := by
  rw [scan_atom h.atomic hrest, h.reads]

theorem isDelimiter_of_isNumeric {c : Char} (h : Numeric.isNumeric c = true) :
    isDelimiter c = false := by
  have hascii : c.toNat < 128 := by
    have hnumeric := Numeric.toNat_of_isNumeric h
    omega
  have hplain : ∀ n < 128, Numeric.isNumeric (Char.ofNat n) = true →
      isDelimiter (Char.ofNat n) = false := by
    decide +kernel
  exact Text.Casing.forall_ascii
    (p := fun c => Numeric.isNumeric c = true → isDelimiter c = false) hplain hascii h

theorem atomic_of_readFinite? {chars : List Char} {x : Float}
    (h : Numeric.readFinite? chars = some x) : Atomic chars := by
  obtain ⟨d, hread, -, -⟩ := Numeric.readFinite?_eq_some_iff.mp h
  constructor
  · rintro rfl
    cases hread
  · intro c hc
    exact isDelimiter_of_isNumeric (Numeric.isNumeric_of_readDecimal? hread hc)

theorem ofAtom_of_readFinite? {chars : List Char} {x : Float}
    (h : Numeric.readFinite? chars = some x) : ofAtom chars = .number x := by
  unfold ofAtom
  rw [h]

theorem scan_number {chars rest : List Char} {x : Float}
    (h : Numeric.readFinite? chars = some x) (hrest : Stops rest) :
    scan (chars ++ rest) = (scan rest).map (.number x :: ·) := by
  rw [scan_atom (atomic_of_readFinite? h) hrest, ofAtom_of_readFinite? h]

end DraftLisp.Token

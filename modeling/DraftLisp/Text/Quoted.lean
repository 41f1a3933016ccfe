namespace DraftLisp.Text.Quoted

def encodeChar (c : Char) : List Char :=
  if c = '"' then ['\\', '"']
  else if c = '\\' then ['\\', '\\']
  else if c = '\n' then ['\\', 'n']
  else if c = '\t' then ['\\', 't']
  else [c]

def encodeBody (chars : List Char) : List Char := chars.flatMap encodeChar

def encode (chars : List Char) : List Char := '"' :: (encodeBody chars ++ ['"'])

/-- The meaning of a backslash pair; a pair without a meaning stands for itself. -/
def decodePair (c : Char) : List Char :=
  if c = 'n' then ['\n']
  else if c = 't' then ['\t']
  else if c = '\\' then ['\\']
  else if c = '"' then ['"']
  else ['\\', c]

/-- Reads on from behind an opening quotation mark: the text of the literal and the input after its
closing mark, or nothing when it is never closed. -/
def scan : List Char → Option (List Char × List Char)
  | [] => none
  | c :: rest =>
    if c = '"' then some ([], rest)
    else if c = '\\' then
      match rest with
      | [] => none
      | pair :: rest => (scan rest).map fun (text, after) => (decodePair pair ++ text, after)
    else (scan rest).map fun (text, after) => (c :: text, after)

theorem scan_quotationMark (rest : List Char) : scan ('"' :: rest) = some ([], rest) := by
  rw [scan.eq_def]; simp

theorem scan_plain {c : Char} (hquote : c ≠ '"') (hslash : c ≠ '\\') (rest : List Char) :
    scan (c :: rest) = (scan rest).map fun (text, after) => (c :: text, after) := by
  rw [scan.eq_def]; simp [hquote, hslash]

theorem scan_encodeChar (c : Char) (rest : List Char) :
    scan (encodeChar c ++ rest) = (scan rest).map fun (text, after) => (c :: text, after) := by
  unfold encodeChar
  split
  · subst c; simp [scan, decodePair]
  · split
    · subst c; simp [scan, decodePair]
    · split
      · subst c; simp [scan, decodePair]
      · split
        · subst c; simp [scan, decodePair]
        · rename_i hquote hslash _ _
          exact scan_plain hquote hslash rest

theorem scan_encodeBody (chars rest : List Char) :
    scan (encodeBody chars ++ '"' :: rest) = some (chars, rest) := by
  induction chars with
  | nil => exact scan_quotationMark rest
  | cons c chars ih =>
    have h : encodeBody (c :: chars) ++ '"' :: rest
        = encodeChar c ++ (encodeBody chars ++ '"' :: rest) := by
      simp [encodeBody]
    rw [h, scan_encodeChar, ih]
    rfl

theorem length_lt_of_scan {chars text after : List Char} (h : scan chars = some (text, after)) :
    after.length < chars.length := by
  fun_induction scan chars generalizing text with
  | case1 => simp at h
  | case2 => simp_all
  | case3 => simp at h
  | case4 pair rest _ ih =>
    obtain ⟨⟨inner, _⟩, hscan, heq⟩ := Option.map_eq_some_iff.1 h
    obtain ⟨_, rfl⟩ := Prod.mk.inj heq
    have := ih hscan
    simp only [List.length_cons]
    omega
  | case5 c rest _ _ ih =>
    obtain ⟨⟨inner, _⟩, hscan, heq⟩ := Option.map_eq_some_iff.1 h
    obtain ⟨_, rfl⟩ := Prod.mk.inj heq
    have := ih hscan
    simp only [List.length_cons]
    omega

end DraftLisp.Text.Quoted

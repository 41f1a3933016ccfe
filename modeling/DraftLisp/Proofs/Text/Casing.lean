import DraftLisp.Text.Blank
import DraftLisp.Text.Casing

namespace DraftLisp.Text.Casing

def Run.single (code : Nat) : Run := ⟨code, code, 1, 0⟩

/-- Code points that no letter outside of ASCII is mapped to: ASCII without the capital letters, the
letter E, blanks, and the numbers that are no characters. -/
def reserved : List Run :=
  [⟨0, 0x40, 1, 0⟩, .single 0x45, ⟨0x5B, 0x7F, 1, 0⟩, ⟨0xD800, 0xDFFF, 1, 0⟩] ++
    blankRanges.map fun range => ⟨range.first, range.last, 1, 0⟩

/-- All code points that are mapped to others, and the reserved ones. -/
def barred : List Run :=
  upperRuns ++ (upperExpansions.map fun entry => .single entry.1) ++ reserved

def Run.counterpart (run : Run) (code : Nat) : Nat := (code + run.shift).toNat

/-- The counterparts of the letters lie in these blocks. -/
def blocks : List (Nat × Nat) :=
  [(0x41, 0x1F7), (0x1F8, 0x5FF), (0x600, 0x1DFF), (0x1E00, 0x1FFF), (0x2000, 0x2FFF),
   (0x3000, 0xA6FF), (0xA700, 0xFFFF), (0x10000, 0x10FFFF)]

/-- The barred code points of a block. -/
def barredIn (low high : Nat) : List Run :=
  barred.filter fun other => Nat.ble other.first high && Nat.ble low other.last

/-- No counterpart of the run is covered by the other: they lie apart, or one stands in the gaps of
the other. -/
def Run.separate (run other : Run) : Bool :=
  Nat.blt (run.counterpart run.last) other.first ||
    Nat.blt other.last (run.counterpart run.first) ||
    (decide (run.first = run.last ∨ run.step % other.step = 0) &&
      decide (((run.counterpart run.first : Int) - other.first) % other.step ≠ 0))

def Run.clear (run : Run) : Bool :=
  blocks.any fun (low, high) =>
    Nat.ble low (run.counterpart run.first) && Nat.ble (run.counterpart run.last) high &&
      (barredIn low high).all run.separate

theorem Run.not_covers_of_separate {run other : Run} (h : run.separate other = true)
    (hpos : 0 < run.counterpart run.first) {code : Nat} (hcode : run.covers code = true) :
    other.covers (run.counterpart code) = false := by
  simp only [covers, Bool.and_eq_true, decide_eq_true_eq, beq_iff_eq] at hcode
  obtain ⟨⟨hfirst, hlast⟩, hstep⟩ := hcode
  have hcounterpart : (run.counterpart code : Int) =
      run.counterpart run.first + (code - run.first) := by
    simp only [counterpart] at *
    omega
  rw [Bool.eq_false_iff]
  intro hcovers
  simp only [covers, Bool.and_eq_true, decide_eq_true_eq, beq_iff_eq] at hcovers
  obtain ⟨⟨hfirst', hlast'⟩, hstep'⟩ := hcovers
  simp only [separate, Bool.and_eq_true, Bool.or_eq_true, decide_eq_true_eq, Nat.blt_eq] at h
  rcases h with (hbelow | habove) | ⟨hgrid, hgap⟩
  · simp only [counterpart] at *
    omega
  · omega
  · -- The counterparts keep a distance to the other run that is no multiple of its step.
    have hcovered : (other.step : Int) ∣ run.counterpart code - other.first := by
      rw [← Int.ofNat_sub hfirst']
      exact Int.natCast_dvd_natCast.mpr (Nat.dvd_of_mod_eq_zero hstep')
    have hoffset : (other.step : Int) ∣ code - run.first := by
      rw [← Int.ofNat_sub hfirst]
      rcases hgrid with hsingle | hgrid
      · rw [show code - run.first = 0 by omega]
        exact Int.dvd_zero _
      · refine Int.natCast_dvd_natCast.mpr (Nat.dvd_trans (Nat.dvd_of_mod_eq_zero hgrid) ?_)
        exact Nat.dvd_of_mod_eq_zero hstep
    refine hgap (Int.emod_eq_zero_of_dvd ?_)
    have hdifference := Int.dvd_sub hcovered hoffset
    rwa [hcounterpart, show (run.counterpart run.first : Int) + (code - run.first) - other.first -
      (code - run.first) = run.counterpart run.first - other.first by omega] at hdifference

theorem Run.not_covers_of_clear {run other : Run} (h : run.clear = true) (hother : other ∈ barred)
    {code : Nat} (hcode : run.covers code = true) :
    other.covers (run.counterpart code) = false := by
  obtain ⟨⟨low, high⟩, hblock, h⟩ := List.any_eq_true.mp h
  have hlow : ∀ block ∈ blocks, 0 < block.1 := by decide
  have hpos := hlow _ hblock
  simp only [Bool.and_eq_true, Nat.ble_eq, List.all_eq_true] at h
  obtain ⟨⟨hfirst, hlast⟩, hall⟩ := h
  refine not_covers_of_separate ?_ (Nat.lt_of_lt_of_le hpos hfirst) hcode
  by_cases hnear : other ∈ barredIn low high
  · exact hall other hnear
  · -- The run was left out of the block, so it lies apart from all of it.
    have hapart : other.first ≤ high → other.last < low := by
      intro hle
      refine Nat.lt_of_not_le fun hge => hnear (List.mem_filter.mpr ⟨hother, ?_⟩)
      simp only [Bool.and_eq_true, Nat.ble_eq]
      exact ⟨hle, hge⟩
    simp only [separate, Bool.or_eq_true, Nat.blt_eq]
    omega

theorem clear_upperRuns :
    (upperRuns.all fun run => Nat.blt run.last 128 || run.clear) = true := by
  decide +kernel

theorem clear_upperExpansions :
    (upperExpansions.all fun entry => entry.2.all fun code => (Run.single code).clear) = true := by
  decide +kernel

structure Free (code : Nat) : Prop where
  lt : code < 0x110000
  not_covers : ∀ other ∈ barred, other.covers code = false

theorem Run.free_of_clear {run : Run} (h : run.clear = true) {code : Nat}
    (hcode : run.covers code = true) : Free (run.counterpart code) := by
  refine ⟨?_, fun other hother => not_covers_of_clear h hother hcode⟩
  obtain ⟨⟨low, high⟩, hblock, h⟩ := List.any_eq_true.mp h
  have hhigh : ∀ block ∈ blocks, block.2 < 0x110000 := by decide
  have hlt := hhigh _ hblock
  simp only [Bool.and_eq_true, Nat.ble_eq] at h
  obtain ⟨⟨-, hlast⟩, -⟩ := h
  simp only [covers, Bool.and_eq_true, decide_eq_true_eq] at hcode
  simp only [counterpart] at *
  omega

theorem free_of_mem_upperExpansions {entry : Nat × List Nat} (h : entry ∈ upperExpansions)
    {code : Nat} (hcode : code ∈ entry.2) : Free code := by
  have hclear := List.all_eq_true.mp (List.all_eq_true.mp clear_upperExpansions entry h) code hcode
  have hcovers : (Run.single code).covers code = true := by simp [Run.covers, Run.single]
  have hfree := Run.free_of_clear hclear hcovers
  rwa [show (Run.single code).counterpart code = code by simp [Run.counterpart, Run.single]]
    at hfree

theorem Free.not_reserved {code : Nat} (h : Free code) :
    0x41 ≤ code ∧ code ≠ 0x45 ∧ (code < 0x5B ∨ 0x80 ≤ code) ∧ (code < 0xD800 ∨ 0xDFFF < code) := by
  have hmem : ∀ other ∈ reserved, other.covers code = false :=
    fun other hother => h.not_covers other (List.mem_append_right _ hother)
  have hcontrol := hmem ⟨0, 0x40, 1, 0⟩ (by simp [reserved])
  have hsmall := hmem ⟨0x5B, 0x7F, 1, 0⟩ (by simp [reserved])
  have hsurrogate := hmem ⟨0xD800, 0xDFFF, 1, 0⟩ (by simp [reserved])
  simp [Run.covers, Nat.mod_one] at hcontrol hsmall hsurrogate
  refine ⟨hcontrol, ?_, by omega, by omega⟩
  rintro rfl
  have hexponent := hmem (.single 0x45) (by simp [reserved])
  simp [Run.covers, Run.single] at hexponent

theorem Free.toNat_ofNat {code : Nat} (h : Free code) : (Char.ofNat code).toNat = code := by
  obtain ⟨-, -, -, hsurrogate⟩ := h.not_reserved
  have hvalid : code.isValidChar := by
    have hlt := h.lt
    rcases hsurrogate with hbelow | habove
    · exact .inl hbelow
    · exact .inr ⟨habove, hlt⟩
  unfold Char.ofNat
  rw [dif_pos hvalid]
  rfl

theorem shifted_eq_self {runs : List Run} {code : Nat}
    (h : ∀ run ∈ runs, run.covers code = false) : shifted runs code = code := by
  unfold shifted
  rw [List.find?_eq_none.mpr fun run hrun => by simp [h run hrun]]

theorem Free.upperChar_eq {code : Nat} (h : Free code) :
    upperChar (Char.ofNat code) = [Char.ofNat code] := by
  have htoNat := h.toNat_ofNat
  have hruns : ∀ run ∈ upperRuns, run.covers code = false :=
    fun run hrun => h.not_covers run (List.mem_append_left _ (List.mem_append_left _ hrun))
  unfold upperChar mapChar
  rw [htoNat]
  split
  · rename_i hascii
    have hcapital : ∀ n < 0x5B, 0x41 ≤ n → [(Char.ofNat n).toUpper] = [Char.ofNat n] := by decide
    obtain ⟨hcontrol, -, hsmall, -⟩ := h.not_reserved
    exact hcapital code (by omega) hcontrol
  · have hlookup : upperExpansions.lookup code = none := by
      rw [List.lookup_eq_none_iff]
      intro entry hentry
      have hcovers := h.not_covers (.single entry.1)
        (List.mem_append_left _ (List.mem_append_right _ (List.mem_map_of_mem hentry)))
      rw [bne_iff_ne]
      rintro rfl
      simp [Run.covers, Run.single] at hcovers
    rw [hlookup, shifted_eq_self hruns]

/-- The uppercase form of a character outside of ASCII is the character, or letters that stay as
they are. -/
theorem mem_upperChar_cases {c u : Char} (hc : 128 ≤ c.toNat) (hu : u ∈ upperChar c) :
    (u = c ∧ upperChar c = [c]) ∨ ∃ code, Free code ∧ u = Char.ofNat code := by
  unfold upperChar mapChar at hu ⊢
  rw [if_neg (by omega)] at hu ⊢
  cases hlookup : upperExpansions.lookup c.toNat with
  | some codes =>
      right
      rw [hlookup] at hu
      obtain ⟨code, hcode, rfl⟩ := List.mem_map.mp hu
      obtain ⟨before, after, hsplit, -⟩ := List.lookup_eq_some_iff.mp hlookup
      have hentry : (c.toNat, codes) ∈ upperExpansions := by simp [hsplit]
      exact ⟨code, free_of_mem_upperExpansions hentry hcode, rfl⟩
  | none =>
      rw [hlookup] at hu
      unfold shifted at hu ⊢
      cases hfind : upperRuns.find? (·.covers c.toNat) with
      | none =>
          left
          rw [hfind] at hu
          simpa using hu
      | some run =>
          right
          rw [hfind] at hu
          refine ⟨run.counterpart c.toNat, ?_, by simpa [Run.counterpart] using hu⟩
          have hcovers := List.find?_some hfind
          have hclear := List.all_eq_true.mp clear_upperRuns run (List.mem_of_find?_eq_some hfind)
          simp only [Bool.or_eq_true, Nat.blt_eq] at hclear
          refine Run.free_of_clear (hclear.resolve_left ?_) hcovers
          simp only [Run.covers, Bool.and_eq_true, decide_eq_true_eq] at hcovers
          omega

theorem upperChar_of_ascii {c : Char} (hc : c.toNat < 128) : upperChar c = [c.toUpper] := by
  unfold upperChar mapChar
  rw [if_pos hc]

theorem forall_ascii {p : Char → Prop} (h : ∀ n < 128, p (Char.ofNat n)) {c : Char}
    (hc : c.toNat < 128) : p c := by
  have hp := h c.toNat hc
  rwa [Char.ofNat_toNat] at hp

theorem upperChar_ne_nil (c : Char) : upperChar c ≠ [] := by
  have hsome : ∀ entry ∈ upperExpansions, entry.2 ≠ [] := by decide
  unfold upperChar mapChar
  split
  · simp
  · cases hlookup : upperExpansions.lookup c.toNat with
    | none => simp
    | some codes =>
        obtain ⟨before, after, hsplit, -⟩ := List.lookup_eq_some_iff.mp hlookup
        have hne := hsome (c.toNat, codes) (by simp [hsplit])
        simpa using hne

theorem upperChar_of_mem {c u : Char} (h : u ∈ upperChar c) : upperChar u = [u] := by
  rcases Nat.lt_or_ge c.toNat 128 with hc | hc
  · rw [upperChar_of_ascii hc, List.mem_singleton] at h
    subst h
    have hupper : ∀ n < 128, (Char.ofNat n).toUpper.toNat < 128 ∧
        (Char.ofNat n).toUpper.toUpper = (Char.ofNat n).toUpper := by
      decide
    obtain ⟨hlt, hsame⟩ : c.toUpper.toNat < 128 ∧ c.toUpper.toUpper = c.toUpper :=
      forall_ascii (p := fun c => c.toUpper.toNat < 128 ∧ c.toUpper.toUpper = c.toUpper) hupper hc
    rw [upperChar_of_ascii hlt, hsame]
  · rcases mem_upperChar_cases hc h with ⟨rfl, hself⟩ | ⟨code, hfree, rfl⟩
    · exact hself
    · exact hfree.upperChar_eq

/-- An ASCII character that is no capital letter is the uppercase form of no other character. -/
theorem eq_of_mem_upperChar {c u : Char} (h : u ∈ upperChar c)
    (hu : u.toNat < 0x41 ∨ 0x5B ≤ u.toNat ∧ u.toNat < 0x80) : c = u := by
  rcases Nat.lt_or_ge c.toNat 128 with hc | hc
  · rw [upperChar_of_ascii hc, List.mem_singleton] at h
    subst h
    have htable : ∀ n < 128, ((Char.ofNat n).toUpper.toNat < 0x41 ∨
        0x5B ≤ (Char.ofNat n).toUpper.toNat ∧ (Char.ofNat n).toUpper.toNat < 0x80) →
          Char.ofNat n = (Char.ofNat n).toUpper := by
      decide
    exact forall_ascii (p := fun c => (c.toUpper.toNat < 0x41 ∨
      0x5B ≤ c.toUpper.toNat ∧ c.toUpper.toNat < 0x80) → c = c.toUpper) htable hc hu
  · rcases mem_upperChar_cases hc h with ⟨rfl, -⟩ | ⟨code, hfree, rfl⟩
    · rfl
    · rw [hfree.toNat_ofNat] at hu
      have hreserved := hfree.not_reserved
      omega

/-- An uppercase text starts with a letter of the uppercase form of the first character. -/
theorem mem_head?_upperChars {chars : List Char} {u : Char} (h : u ∈ (upperChars chars).head?) :
    ∃ c ∈ chars.head?, u ∈ upperChar c := by
  cases chars with
  | nil => cases h
  | cons c rest =>
      refine ⟨c, rfl, ?_⟩
      cases hupper : upperChar c with
      | nil => exact absurd hupper (upperChar_ne_nil c)
      | cons first others =>
          rw [upperChars, List.flatMap_cons, hupper] at h
          cases h
          exact List.mem_cons_self

theorem upperChars_eq_self {chars : List Char} (h : ∀ c ∈ chars, upperChar c = [c]) :
    upperChars chars = chars := by
  induction chars with
  | nil => rfl
  | cons c rest ih =>
      change upperChar c ++ upperChars rest = c :: rest
      rw [h c List.mem_cons_self, ih fun other hother => h other (List.mem_cons_of_mem c hother)]
      rfl

theorem upperChars_upperChars (chars : List Char) :
    upperChars (upperChars chars) = upperChars chars := by
  refine upperChars_eq_self fun u hu => ?_
  obtain ⟨c, -, hmem⟩ := List.mem_flatMap.mp hu
  exact upperChar_of_mem hmem

theorem upperChars_of_ascii {chars : List Char} (h : ∀ c ∈ chars, c.toNat < 128) :
    upperChars chars = chars.map Char.toUpper := by
  induction chars with
  | nil => rfl
  | cons c rest ih =>
      change upperChar c ++ upperChars rest = c.toUpper :: rest.map Char.toUpper
      rw [upperChar_of_ascii (h c List.mem_cons_self),
        ih fun other hother => h other (List.mem_cons_of_mem c hother)]
      rfl

end DraftLisp.Text.Casing

import DraftLisp.Proofs.Form.Grammar
import DraftLisp.Proofs.Form.Readable
import DraftLisp.Proofs.Numeric.ShortestRead
import DraftLisp.Proofs.Token.Spelled

namespace DraftLisp

namespace Form

mutual

/-- The form with its numbers as they are read from their written form. -/
def reread : Form → Form
  | .number x => .number (Numeric.reread x)
  | .string text => .string text
  | .symbol name => .symbol name
  | .list items => .list (rereadItems items)

def rereadItems : List Form → List Form
  | [] => []
  | form :: rest => form.reread :: rereadItems rest

end

mutual

def tokens : Form → List Token
  | .number x => [.number x]
  | .string text => [.string text]
  | .symbol name => [.symbol name]
  | .list items => .opening :: (itemTokens items ++ [.closing])

def itemTokens : List Form → List Token
  | [] => []
  | form :: rest => form.tokens ++ itemTokens rest

end

theorem rereadItems_eq_map (items : List Form) : rereadItems items = items.map reread := by
  induction items with
  | nil => rfl
  | cons form rest ih => rw [rereadItems, ih, List.map_cons]

theorem itemTokens_eq_flatMap (items : List Form) : itemTokens items = items.flatMap tokens := by
  induction items with
  | nil => rfl
  | cons form rest ih => rw [itemTokens, ih, List.flatMap_cons]

theorem beqItems_eq (xs ys : List Form) : beqItems xs ys = (xs == ys) := by
  induction xs generalizing ys with
  | nil => cases ys <;> rfl
  | cons x xs ih =>
      cases ys with
      | nil => rfl
      | cons y ys =>
          rw [beqItems, ih]
          rfl

theorem beqItems_rereadItems {items : List Form}
    (h : ∀ item ∈ items, (item.reread.beq item) = true) :
    beqItems (rereadItems items) items = true := by
  induction items with
  | nil => rfl
  | cons form rest ih =>
      rw [rereadItems, beqItems, Bool.and_eq_true]
      exact ⟨h form List.mem_cons_self, ih fun item hitem => h item (List.mem_cons_of_mem _ hitem)⟩

variable {room : Nat} {form : Form}

theorem Readable.beq_reread (h : form.Readable room) : form.reread.beq form = true := by
  induction h with
  | number hfinite => exact Numeric.reread_beq hfinite
  | string => exact beq_self_eq_true _
  | symbol hname => exact beq_self_eq_true _
  | list hitems ih => exact beqItems_rereadItems ih

theorem Readable.reread (h : form.Readable room) : form.reread.Readable room := by
  induction h with
  | number hfinite => exact .number (Numeric.isFinite_reread hfinite)
  | string => exact .string
  | symbol hname => exact .symbol hname
  | list hitems ih =>
      apply Readable.list
      rw [rereadItems_eq_map]
      intro item hitem
      obtain ⟨original, horiginal, rfl⟩ := List.mem_map.mp hitem
      exact ih original horiginal

end Form

namespace Reader

open Form (Readable)

variable {limit room : Nat} {form : Form}

theorem delivers_of_readable (h : form.Readable room) {depth : Nat}
    (hdepth : depth + room ≤ limit) : Delivers limit form.tokens form depth := by
  induction h generalizing depth with
  | number hfinite => exact delivers_atom fun state hstate => .number (by omega)
  | string => exact delivers_atom fun state hstate => .string (by omega)
  | symbol hname => exact delivers_atom fun state hstate => .symbol (by omega)
  | @list room items hitems ih =>
      have hdelivers : ∀ item ∈ items, Delivers limit item.tokens item (depth + 1) :=
        fun item hitem => ih item hitem (by omega)
      have hlist := delivers_list (by omega) hdelivers
      rwa [← Form.itemTokens_eq_flatMap, List.map_id'] at hlist

theorem forms_itemTokens {items : List Form} (h : ∀ item ∈ items, item.Readable limit) :
    forms limit (Form.itemTokens items) = .ok items := by
  have hforms := forms_flatMap fun item hitem =>
    delivers_of_readable (h item hitem) (Nat.le_of_eq (Nat.zero_add limit))
  rwa [← Form.itemTokens_eq_flatMap, List.map_id'] at hforms

end Reader

namespace Form

/-- Wherever it stands in front of a delimiter, the text is split into the tokens. -/
def Spells (chars : List Char) (tokens : List Token) : Prop :=
  ∀ rest, Token.Stops rest → Token.scan (chars ++ rest) = (Token.scan rest).map (tokens ++ ·)

theorem map_append_map {ε : Type} (tokens others : List Token) (found : Except ε (List Token)) :
    (found.map (others ++ ·)).map (tokens ++ ·) = found.map (tokens ++ others ++ ·) := by
  cases found with
  | error fault => rfl
  | ok after =>
      change Except.ok (tokens ++ (others ++ after)) = Except.ok (tokens ++ others ++ after)
      rw [List.append_assoc]

theorem spells_nil : Spells [] [] := by
  intro rest hrest
  change Token.scan rest = (Token.scan rest).map id
  rw [Except.map_id]
  rfl

/-- The space ends the text in front of it and is skipped before the next one. -/
theorem Spells.space {chars others : List Char} {tokens behind : List Token}
    (h : Spells chars tokens) (hothers : Spells others behind) :
    Spells (chars ++ ' ' :: others) (tokens ++ behind) := by
  intro rest hrest
  rw [List.append_assoc, List.cons_append, h _ (by rfl), Token.scan_space, hothers rest hrest,
    map_append_map]

/-- Texts with spaces between them are split into the tokens of each. -/
theorem spells_intercalate {ι : Type} {chars : ι → List Char} {tokens : ι → List Token}
    {items : List ι} (h : ∀ item ∈ items, Spells (chars item) (tokens item)) :
    Spells ([' '].intercalate (items.map chars)) (items.flatMap tokens) := by
  induction items with
  | nil => exact spells_nil
  | cons item items ih =>
      have hitem := h item List.mem_cons_self
      have hitems := ih fun other hother => h other (List.mem_cons_of_mem _ hother)
      cases items with
      | nil => simpa using hitem
      | cons next items =>
          have hspace := hitem.space hitems
          simpa [List.intercalate_cons_cons] using hspace

theorem Spells.parenthesized {chars : List Char} {tokens : List Token} (h : Spells chars tokens) :
    Spells ('(' :: (chars ++ [')'])) (.opening :: (tokens ++ [.closing])) := by
  intro rest hrest
  have hinner := h (')' :: rest) (by rfl)
  rw [List.cons_append, List.append_assoc, List.singleton_append, Token.scan_opening, hinner,
    Token.scan_closing]
  cases Token.scan rest with
  | error failure => rfl
  | ok after => simp [Except.map]

theorem spaced_eq_intercalate (items : List Form) :
    spaced items = [' '].intercalate (items.map chars) := by
  induction items with
  | nil => rfl
  | cons form items ih =>
      cases items with
      | nil => simp [spaced]
      | cons next items => simp [spaced, ih, List.intercalate_cons_cons]

theorem spells_spaced {items : List Form}
    (h : ∀ item ∈ items, Spells item.chars item.reread.tokens) :
    Spells (spaced items) (itemTokens (rereadItems items)) := by
  rw [spaced_eq_intercalate, itemTokens_eq_flatMap, rereadItems_eq_map, List.flatMap_map]
  exact spells_intercalate h

theorem Readable.spells {room : Nat} {form : Form} (h : form.Readable room) :
    Spells form.chars form.reread.tokens := by
  induction h with
  | number hfinite =>
      intro rest hrest
      exact Token.scan_number (Numeric.readFinite?_numberChars hfinite) hrest
  | @string room text =>
      intro rest hrest
      exact Token.scan_encode text rest
  | symbol hname =>
      intro rest hrest
      exact Token.scan_name hname hrest
  | list hitems ih => exact (spells_spaced ih).parenthesized

end Form

namespace Reader

theorem toList_intercalate (items : List Form) :
    (" ".intercalate (items.map Form.text)).toList = Form.spaced items := by
  induction items with
  | nil => rfl
  | cons form items ih =>
      cases items with
      | nil =>
          rw [List.map_singleton, String.intercalate_singleton, Form.text, String.toList_ofList,
            Form.spaced]
      | cons next items =>
          rw [List.map_cons] at ih
          rw [List.map_cons, List.map_cons, String.intercalate_cons_cons, String.toList_append, ih,
            String.toList_append, Form.text, String.toList_ofList, Form.spaced]
          simp

theorem readText_of_scan {input : String} {tokens : List Token} {read : List Form}
    (hscan : Token.scan input.toList = .ok tokens) (hforms : forms limit tokens = .ok read) :
    readText limit input = .ok read :=
  readText_eq_ok_iff.mpr ⟨tokens, Token.tokenize_eq_ok_iff.mpr hscan, hforms⟩

/-- A program that was read is read from its written form again, as an equal program. -/
theorem readText_intercalate (limit : Nat) (input : String) (program : List Form)
    (h : readText limit input = .ok program) :
    ∃ again, readText limit (" ".intercalate (program.map Form.text)) = .ok again ∧
      (again == program) = true := by
  have hreadable := readable_of_readText h
  have hspells := Form.spells_spaced fun item hitem => (hreadable item hitem).spells
  have hscan : Token.scan (Form.spaced program) =
      .ok (Form.itemTokens (Form.rereadItems program)) := by
    have hall := hspells [] trivial
    rw [List.append_nil] at hall
    rw [hall]
    simp [Token.scan, Token.skipGaps, Except.map]
  have hagain : ∀ item ∈ Form.rereadItems program, item.Readable limit := by
    rw [Form.rereadItems_eq_map]
    intro item hitem
    obtain ⟨original, horiginal, rfl⟩ := List.mem_map.mp hitem
    exact (hreadable original horiginal).reread
  refine ⟨Form.rereadItems program, ?_, ?_⟩
  · rw [← toList_intercalate] at hscan
    exact readText_of_scan hscan (forms_itemTokens hagain)
  · rw [← Form.beqItems_eq]
    exact Form.beqItems_rereadItems fun item hitem => (hreadable item hitem).beq_reread

theorem readText_intercalate_quote_zero :
    ∃ program, readText 3 "'(a -0.0)" = .ok program ∧
      ∃ again, readText 3 (" ".intercalate (program.map Form.text)) = .ok again ∧
        (again == program) = true := by
  have hname : Token.ofAtom ['a'] = .symbol "A" := by decide +kernel
  have hzero : Token.ofAtom ['-', '0', '.', '0'] = .number (-0.0) := by decide +kernel
  have hchars : "'(a -0.0)".toList = ['\'', '(', 'a', ' ', '-', '0', '.', '0', ')'] := by decide
  have hscan : Token.scan ['\'', '(', 'a', ' ', '-', '0', '.', '0', ')'] =
      .ok [.quote, .opening, Token.ofAtom ['a'], Token.ofAtom ['-', '0', '.', '0'], .closing] :=
    Token.scan_cons rfl rfl (Token.scan_cons rfl rfl (Token.scan_cons rfl rfl
      (Token.scan_cons rfl rfl (Token.scan_cons rfl rfl Token.scan_nil))))
  have hforms : forms 3 [.quote, .opening, .symbol "A", .number (-0.0), .closing] =
      .ok [.list [.symbol "QUOTE", .list [.symbol "A", .number (-0.0)]]] := rfl
  rw [hname, hzero, ← hchars] at hscan
  have hread := readText_of_scan hscan hforms
  exact ⟨_, hread, readText_intercalate 3 _ _ hread⟩

end Reader

end DraftLisp

import DraftLisp.Proofs.Builtin.ReadData
import DraftLisp.Proofs.Form.RoundTrip

namespace DraftLisp

namespace Value

/-- A name that the reader can give to a symbol: an atom that is no number, in uppercase. -/
structure CanonicalName (name : String) : Prop where
  atomic : Token.Atomic name.toList
  not_number : Numeric.readFinite? name.toList = none
  upper : Text.upper name = name

theorem CanonicalName.isName {name : String} (h : CanonicalName name) : Token.IsName name := by
  refine ⟨h.atomic, ?_⟩
  have hname := h.upper
  rw [Text.upper] at hname
  rw [Token.ofAtom_of_not_finite h.not_number, hname]

/-- Data with a written form: lists are not empty and nest at most so deep, numbers are finite, and
symbols are canonical and not `NIL`. -/
inductive Data : Nat → Value → Prop
  | nil {depth : Nat} : Data depth .nil
  | number {depth : Nat} {x : Float} : x.isFinite = true → Data depth (.number x)
  | string {depth : Nat} {text : String} : Data depth (.string text)
  | symbol {depth : Nat} {name : String} :
      CanonicalName name → name ≠ "NIL" → Data depth (.symbol name)
  | list {depth : Nat} {items : List Value} :
      items ≠ [] → (∀ item ∈ items, Data depth item) → Data (depth + 1) (.list items)

mutual

/-- The form that is read from the written form of data. -/
def writtenForm : Value → Form
  | .nil => .symbol "NIL"
  | .truth => .symbol "T"
  | .number x => .number (Numeric.reread x)
  | .string text => .string text
  | .symbol name => .symbol name
  | .list items => .list (writtenForms items)
  | .closure .. | .entity _ | .selection _ => .symbol "NIL"

def writtenForms : List Value → List Form
  | [] => []
  | value :: rest => value.writtenForm :: writtenForms rest

end

theorem writtenForms_eq_map (items : List Value) : writtenForms items = items.map writtenForm := by
  induction items with
  | nil => rfl
  | cons value rest ih => rw [writtenForms, ih, List.map_cons]

theorem chars_list (items : List Value) :
    (list items).chars = '(' :: (spaced items ++ [')']) :=
  rfl

theorem spaced_eq_intercalate (items : List Value) :
    spaced items = [' '].intercalate (items.map chars) := by
  induction items with
  | nil => rfl
  | cons value items ih =>
      cases items with
      | nil => simp [spaced]
      | cons next items => simp [spaced, ih, List.intercalate_cons_cons]

theorem spells_nilText : Form.Spells "nil".toList [.symbol "NIL"] := by
  have hatomic : Token.Atomic "nil".toList := Token.atomic_of_plain (by decide) (by decide)
  have hname : Token.ofAtom "nil".toList = .symbol "NIL" := by decide +kernel
  intro rest hrest
  rw [Token.scan_atom hatomic hrest, hname]
  rfl

theorem isName_nil : Token.IsName "NIL" :=
  Token.isName_of_plain (by decide) (by decide) (by decide +kernel)

variable {depth : Nat} {value : Value}

theorem Data.spells (h : value.Data depth) :
    Form.Spells value.chars value.writtenForm.tokens := by
  induction h with
  | nil => exact spells_nilText
  | number hfinite =>
      intro rest hrest
      exact Token.scan_number (Numeric.readFinite?_numberChars hfinite) hrest
  | @string depth text =>
      intro rest _
      exact Token.scan_encode text rest
  | symbol hname _ =>
      intro rest hrest
      exact Token.scan_name hname.isName hrest
  | @list depth items hne hitems ih =>
      rw [chars_list, spaced_eq_intercalate, writtenForm, Form.tokens, Form.itemTokens_eq_flatMap,
        writtenForms_eq_map, List.flatMap_map]
      exact (Form.spells_intercalate ih).parenthesized

theorem Data.readable (h : value.Data depth) {room : Nat} (hroom : depth ≤ room) :
    value.writtenForm.Readable (room + 1) := by
  induction h generalizing room with
  | nil => exact .symbol isName_nil
  | number hfinite => exact .number (Numeric.isFinite_reread hfinite)
  | string => exact .string
  | symbol hname _ => exact .symbol hname.isName
  | @list depth items hne hitems ih =>
      obtain ⟨room, rfl⟩ := Nat.exists_eq_add_one.mpr (Nat.zero_lt_of_lt hroom)
      apply Form.Readable.list
      rw [writtenForms_eq_map]
      intro form hform
      obtain ⟨item, hitem, rfl⟩ := List.mem_map.mp hform
      exact ih item hitem (Nat.le_of_succ_le_succ hroom)

theorem beqItems_map {items : List Value} {other : Value → Value}
    (h : ∀ item ∈ items, (other item).beq item = true) :
    beqItems (items.map other) items = true := by
  induction items with
  | nil => rfl
  | cons value rest ih =>
      rw [List.map_cons, beqItems, Bool.and_eq_true]
      exact ⟨h value List.mem_cons_self, ih fun item hitem => h item (List.mem_cons_of_mem _ hitem)⟩

theorem Data.beq_written (h : value.Data depth) :
    (ofForm value.writtenForm).beq value = true := by
  induction h with
  | nil => rfl
  | number hfinite => exact Numeric.reread_beq hfinite
  | string => exact beq_self_eq_true _
  | symbol _ hnil =>
      rw [writtenForm, ofForm, if_neg hnil]
      exact beq_self_eq_true _
  | @list depth items hne hitems ih =>
      obtain ⟨first, rest, rfl⟩ := List.exists_cons_of_ne_nil hne
      rw [writtenForm, ofForm, ofForms_eq_map, writtenForms_eq_map, List.map_map]
      exact beqItems_map ih

theorem Data.readText (h : value.Data depth) {limit : Nat} (hlimit : depth ≤ limit) :
    Reader.readText (limit + 1) value.text = .ok [value.writtenForm] := by
  have hscan := h.spells [] trivial
  rw [List.append_nil, Token.scan_nil] at hscan
  have hforms := Reader.forms_itemTokens (List.forall_mem_singleton.mpr (h.readable hlimit))
  rw [Form.itemTokens, Form.itemTokens, List.append_nil] at hforms
  refine Reader.readText_of_scan ?_ hforms
  rw [text, String.toList_ofList, hscan]
  simp [Except.map]

end Value

section Operators

variable {state : State} {level : Nat} {operand : Form} {value : Value}

theorem Form.gives_read {text : String} {form : Form}
    (hoperand : operand.Gives state level (.string text))
    (hread : Reader.readText Reader.defaultLimit text = .ok [form]) :
    Form.Gives state (level + 1) (.list [.symbol "READ", operand]) (.ofForm form) := by
  intro rounds limit room hroom
  rw [eval_read hoperand rounds limit hroom, hread]
  rfl

theorem Form.gives_written (hoperand : operand.Gives state level value)
    (hvalue : ∀ text, value ≠ .string text) :
    Form.Gives state (level + 1) (.list [.symbol "VL-PRINC-TO-STRING", operand])
      (.string value.text) := by
  refine Form.gives_pure Builtin.texts[11] rfl rfl rfl rfl (.cons hoperand .nil) ?_
  cases value with
  | string text => exact (hvalue text rfl).elim
  | _ => rfl

/-- The operator shows the written form to the user. -/
theorem eval_prin1 (hoperand : operand.Gives state level value) (rounds limit : Nat) {room : Nat}
    (hroom : level < room) :
    eval rounds limit room 0 (.list [.symbol "PRIN1", operand]) state =
      .done (.ok value) { state with drawing := state.drawing.writeLog value.text .output } := by
  obtain ⟨room, rfl⟩ := Nat.exists_eq_add_of_lt hroom
  have hcall := eval_call_gives Builtin.editing[1] rfl rfl (.cons hoperand .nil) rounds limit
    (Nat.le_add_right level room)
  exact hcall.trans (by rw [apply_edit rfl rfl]; rfl)

end Operators

/-- Data that nests at most 255 lists deep is read from its written form, as `PRIN1` shows it and
`VL-PRINC-TO-STRING` gives it, as equal data. -/
theorem read_written {value : Value} (h : value.Data 255) :
    ∃ again, (again == value) = true ∧
      (∀ state level operand, Form.Gives state level operand (.string value.text) →
        Form.Gives state (level + 1) (.list [.symbol "READ", operand]) again) ∧
      ∀ state level operand, Form.Gives state level operand value →
        (∀ rounds limit room, level < room →
          eval rounds limit room 0 (.list [.symbol "PRIN1", operand]) state = .done (.ok value)
            { state with drawing := state.drawing.writeLog value.text .output }) ∧
        ((∀ text, value ≠ .string text) →
          Form.Gives state (level + 1) (.list [.symbol "VL-PRINC-TO-STRING", operand])
            (.string value.text)) :=
  ⟨.ofForm value.writtenForm, h.beq_written,
    fun _ _ _ hoperand => Form.gives_read hoperand (h.readText (Nat.le_refl 255)),
    fun _ _ _ hoperand => ⟨fun rounds limit _ hroom => eval_prin1 hoperand rounds limit hroom,
      Form.gives_written hoperand⟩⟩

/-- `(nil 0 "\"\\\n" X (nil))`, with a zero that has a sign. -/
def Value.mixedData : Value :=
  .list [.nil, .number (-0.0), .string "\"\\\n", .symbol "X", .list [.nil]]

theorem Value.data_mixedData : mixedData.Data 255 := by
  have hname : CanonicalName "X" :=
    ⟨Token.atomic_of_plain (by decide) (by decide), by decide +kernel, by decide +kernel⟩
  have hinner : (Value.list [.nil]).Data 254 :=
    .list (List.cons_ne_nil _ _) (List.forall_mem_singleton.mpr .nil)
  refine .list (List.cons_ne_nil _ _) ?_
  simp only [List.forall_mem_cons, List.not_mem_nil, false_imp_iff, implies_true, and_true]
  exact ⟨.nil, .number (by decide +kernel), .string, .symbol hname (by decide), hinner⟩

theorem read_written_mixedData :
    Value.mixedData.Data 255 ∧
      ∃ again, (again == Value.mixedData) = true ∧
        eval 1 2 2 0 (.list [.symbol "READ", .string Value.mixedData.text]) default =
          .done (.ok again) default := by
  obtain ⟨again, hagain, hread, -⟩ := read_written Value.data_mixedData
  exact ⟨Value.data_mixedData, again, hagain,
    hread default 1 _ (Form.gives_string default _) 1 2 2 (Nat.le_refl 2)⟩

end DraftLisp

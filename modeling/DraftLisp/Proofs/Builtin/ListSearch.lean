import DraftLisp.Builtin.Registry
import DraftLisp.Proofs.Evaluation.Application
import DraftLisp.Proofs.Numeric.Counting
import DraftLisp.Proofs.Numeric.Difference

namespace DraftLisp.Builtin.Lists

/-- Takes elements off a list, one call of `CDR` for each. -/
def cdrs (ev : Evaluator) (level : Nat) (list : Value) : (count : Nat) → Comp Value
  | 0 => pure list
  | count + 1 => do callNamed ev level "CDR" [← cdrs ev level list count]

/-- The first element that is equal to the item, and its place. -/
structure FirstEqual (item : Value) (items : List Value) (place : Nat) (x : Value) : Prop where
  stands : items[place]? = some x
  equal : (x == item) = true
  first : ∀ earlier < place, ∀ y ∈ items[earlier]?, (y == item) = false

/-- What is kept of a list without the elements that are equal to the item. -/
structure Rid (item : Value) (items kept : List Value) : Prop where
  different : ∀ x ∈ kept, (x == item) = false
  counted : kept.length + items.countP (· == item) = items.length

variable {item x : Value} {items : List Value} {place : Nat}

theorem firstEqual_of_findIdx? (h : items.findIdx? (· == item) = some place) :
    ∃ x, FirstEqual item items place x := by
  obtain ⟨hplace, hequal, hfirst⟩ := List.findIdx?_eq_some_iff_getElem.mp h
  refine ⟨items[place], List.getElem?_eq_getElem hplace, hequal, fun earlier hearlier y hy => ?_⟩
  obtain ⟨hlt, rfl⟩ := List.getElem?_eq_some_iff.mp hy
  exact Bool.eq_false_iff.mpr (hfirst earlier hearlier)

theorem findIdx?_eq_none_iff_forall :
    items.findIdx? (· == item) = none ↔ ∀ x ∈ items, (x == item) = false :=
  List.findIdx?_eq_none_iff

theorem FirstEqual.lt_length (h : FirstEqual item items place x) : place < items.length :=
  (List.getElem?_eq_some_iff.mp h.stands).1

theorem FirstEqual.drop_eq (h : FirstEqual item items place x) :
    items.drop place = x :: items.drop (place + 1) := by
  obtain ⟨hplace, rfl⟩ := List.getElem?_eq_some_iff.mp h.stands
  exact List.drop_eq_getElem_cons hplace

/-- The tail that is found starts at the first place. -/
theorem member_eq (item : Value) (items : List Value) :
    member item items =
      .ofOption ((items.findIdx? (· == item)).map fun place => .list (items.drop place)) := by
  induction items with
  | nil => rfl
  | cons x rest ih =>
      rw [member, List.findIdx?_cons]
      by_cases hx : (x == item) = true
      · rw [if_pos hx, if_pos hx]
        rfl
      · rw [if_neg hx, if_neg hx, ih, Option.map_map]
        rfl

theorem bne_eq_true_iff : (x != item) = true ↔ (x == item) = false := by
  rw [bne, Bool.not_eq_true']

theorem rid_filter (item : Value) (items : List Value) :
    Rid item items (items.filter (· != item)) := by
  constructor
  case different =>
    intro x hx
    exact bne_eq_true_iff.mp (List.mem_filter.mp hx).2
  case counted =>
    have hrest : items.countP (· != item) = items.countP fun x => ¬(x == item) := by
      refine List.countP_congr fun x _ => ?_
      rw [bne_eq_true_iff, decide_eq_true_eq, Bool.not_eq_true]
    rw [← List.countP_eq_length_filter, hrest, Nat.add_comm]
    exact (List.length_eq_countP_add_countP (· == item)).symm

theorem filter_eq_self_iff_forall :
    items.filter (· != item) = items ↔ ∀ x ∈ items, (x == item) = false := by
  rw [List.filter_eq_self]
  exact forall₂_congr fun _ _ => bne_eq_true_iff

/-- What is no number is never found, neither as the item nor as an element. -/
theorem FirstEqual.not_isNaN (h : FirstEqual item items place x) :
    ∀ y : Float, y.isNaN = true → item ≠ .number y ∧ x ≠ .number y := by
  obtain ⟨-, hequal, -⟩ := h
  rintro y hy
  constructor
  · rintro rfl
    cases x with
    | number z => exact absurd hy (by rw [(Numeric.not_isNaN_of_beq hequal).2]; decide)
    | _ => cases hequal
  · rintro rfl
    cases item with
    | number z => exact absurd hy (by rw [(Numeric.not_isNaN_of_beq hequal).1]; decide)
    | _ => cases hequal

section Calls

variable (ev : Evaluator) (level : Nat) (state : State) {list : Value}

/-- An operator that reads a list answers with what it makes of the elements. -/
theorem callNamed_items {name : String} {operator : Builtin} {operands : List Value}
    {run : List Value → Except Error Value} (answer : List Value → Value)
    (hlist : list.items? = some items) (hfind : find? name = some operator)
    (haction : operator.action = .pure fun operands => halting (run operands))
    (hcheck : operator.arity.check operands.length = .ok ())
    (hrun : run operands = (do return answer (← list.expectList))) :
    callNamed ev level name operands state = .done (.ok (answer items)) state := by
  have hread : list.expectList = .ok items := by
    rw [Value.expectList, hlist]
    rfl
  refine callNamed_ok ev level hfind haction hcheck ?_ state
  rw [hrun, hread]
  rfl

theorem car_eq (hlist : list.items? = some items) :
    callNamed ev level "CAR" [list] state = .done (.ok (items.headD .nil)) state :=
  callNamed_items ev level state (·.headD .nil) hlist
    (show find? "CAR" = some lists[0] from rfl) rfl rfl rfl

theorem cdr_eq (hlist : list.items? = some items) :
    callNamed ev level "CDR" [list] state = .done (.ok (.ofList items.tail)) state :=
  callNamed_items ev level state (.ofList ·.tail) hlist
    (show find? "CDR" = some lists[1] from rfl) rfl rfl rfl

theorem length_eq (hlist : list.items? = some items) :
    callNamed ev level "LENGTH" [list] state = .done (.ok (.ofNat items.length)) state :=
  callNamed_items ev level state (.ofNat ·.length) hlist
    (show find? "LENGTH" = some lists[10] from rfl) rfl rfl rfl

theorem nth_eq (index : Float) (hlist : list.items? = some items) :
    callNamed ev level "NTH" [.number index, list] state = .done (.ok (nth index items)) state :=
  callNamed_items ev level state (nth index) hlist
    (show find? "NTH" = some lists[11] from rfl) rfl rfl rfl

theorem member_call (item : Value) (hlist : list.items? = some items) :
    callNamed ev level "MEMBER" [item, list] state = .done (.ok (member item items)) state :=
  callNamed_items ev level state (member item) hlist
    (show find? "MEMBER" = some lists[14] from rfl) rfl rfl rfl

theorem position_call (item : Value) (hlist : list.items? = some items) :
    callNamed ev level "VL-POSITION" [item, list] state =
      .done (.ok (positionOf item items)) state :=
  callNamed_items ev level state (positionOf item) hlist
    (show find? "VL-POSITION" = some lists[17] from rfl) rfl rfl rfl

theorem remove_call (item : Value) (hlist : list.items? = some items) :
    callNamed ev level "VL-REMOVE" [item, list] state = .done (.ok (without item items)) state :=
  callNamed_items ev level state (without item) hlist
    (show find? "VL-REMOVE" = some lists[18] from rfl) rfl rfl rfl

theorem cdrs_ofList (items : List Value) (count : Nat) :
    cdrs ev level (.ofList items) count state = .done (.ok (.ofList (items.drop count))) state := by
  induction count with
  | zero => rfl
  | succ count ih =>
      rw [cdrs, Comp.bind_apply, ih]
      change callNamed ev level "CDR" [.ofList (items.drop count)] state = _
      rw [cdr_eq ev level state (Value.items?_ofList _), List.tail_drop]

/-- Where the searches have found an element: the tail of the list that starts with it is reached by
taking off as many elements as its place says. -/
structure Reached (list : Value) (items : List Value) (index tail : Value) (place : Nat)
    (x : Value) : Prop where
  index : index = .ofNat place
  behind : cdrs ev level list place state = .done (.ok tail) state
  car : callNamed ev level "CAR" [tail] state = .done (.ok x) state
  /-- Places are numbers, which count exactly below `2 * Numeric.hiddenBit`. -/
  nth : place < 2 * Numeric.hiddenBit →
    callNamed ev level "NTH" [.ofNat place, list] state = .done (.ok x) state
  length : callNamed ev level "LENGTH" [tail] state =
    .done (.ok (.ofNat (items.length - place))) state

/-- The answers of the three searches for an item, and what they have to do with each other. -/
structure Agree (item list : Value) (items : List Value) (index tail : Value)
    (kept : List Value) : Prop where
  position : callNamed ev level "VL-POSITION" [item, list] state = .done (.ok index) state
  member : callNamed ev level "MEMBER" [item, list] state = .done (.ok tail) state
  remove : callNamed ev level "VL-REMOVE" [item, list] state = .done (.ok (.ofList kept)) state
  /-- Neither of the searches finds anything just if the third one takes nothing out. -/
  position_iff_member : index = .nil ↔ tail = .nil
  member_iff_remove : tail = .nil ↔ kept = items
  absent : kept = items ↔ ∀ x ∈ items, (x == item) = false
  found : index ≠ .nil → ∃ place x, FirstEqual item items place x ∧
    Reached ev level state list items index tail place x
  rid : Rid item items kept
  lengths : callNamed ev level "LENGTH" [list] state = .done (.ok (.ofNat items.length)) state ∧
    callNamed ev level "LENGTH" [.ofList kept] state = .done (.ok (.ofNat kept.length)) state
  /-- What is no number is not found. -/
  nan : ∀ y : Float, y.isNaN = true → item = .number y → index = .nil

theorem eq_ofList_of_ne_nil (hlist : list.items? = some items) (hitems : items ≠ []) :
    list = .ofList items := by
  cases list with
  | nil => exact absurd (Option.some.inj hlist).symm hitems
  | list others =>
      obtain rfl := Option.some.inj hlist
      cases others with
      | nil => exact absurd rfl hitems
      | cons y rest => rfl
  | _ => cases hlist

theorem reached (hlist : list.items? = some items) (h : FirstEqual item items place x) :
    Reached ev level state list items (.ofNat place) (.list (items.drop place)) place x := by
  have hne : items ≠ [] := List.ne_nil_of_length_pos (Nat.zero_lt_of_lt h.lt_length)
  have htail : Value.ofList (items.drop place) = .list (items.drop place) := by
    rw [h.drop_eq]
    rfl
  constructor
  case index => rfl
  case behind =>
    rw [eq_ofList_of_ne_nil hlist hne, cdrs_ofList, htail]
  case car =>
    rw [car_eq ev level state rfl, h.drop_eq]
    rfl
  case nth =>
    intro hplace
    refine (nth_eq ev level state (Numeric.ofNat place) hlist).trans ?_
    rw [nth, position?_ofNat hplace, Option.bind_some, h.stands]
    rfl
  case length =>
    rw [length_eq ev level state rfl, List.length_drop]

/-- The three searches for an item in a list agree: they all find the same element or nothing. -/
theorem searches_agree (item : Value) (hlist : list.items? = some items) :
    ∃ index tail kept, Agree ev level state item list items index tail kept := by
  refine ⟨positionOf item items, member item items, items.filter (· != item), ?_⟩
  have hnone : items.findIdx? (· == item) = none ↔ items.filter (· != item) = items :=
    findIdx?_eq_none_iff_forall.trans filter_eq_self_iff_forall.symm
  have hmember : member item items = .nil ↔ items.findIdx? (· == item) = none := by
    rw [member_eq]
    cases items.findIdx? (· == item) <;> simp [Value.ofOption]
  have hposition : positionOf item items = .nil ↔ items.findIdx? (· == item) = none := by
    rw [positionOf]
    cases items.findIdx? (· == item) <;> simp [Value.ofOption, Value.ofNat]
  constructor
  case position => exact position_call ev level state item hlist
  case member => exact member_call ev level state item hlist
  case remove => exact remove_call ev level state item hlist
  case position_iff_member => exact hposition.trans hmember.symm
  case member_iff_remove => exact hmember.trans hnone
  case absent => exact filter_eq_self_iff_forall
  case found =>
    intro hfound
    obtain ⟨place, hplace⟩ := Option.ne_none_iff_exists'.mp (hposition.not.mp hfound)
    obtain ⟨x, hx⟩ := firstEqual_of_findIdx? hplace
    refine ⟨place, x, hx, ?_⟩
    rw [positionOf, member_eq, hplace]
    exact reached ev level state hlist hx
  case rid => exact rid_filter item items
  case lengths =>
    exact ⟨length_eq ev level state hlist, length_eq ev level state (Value.items?_ofList _)⟩
  case nan =>
    intro y hy hitem
    by_contra hfound
    obtain ⟨place, hplace⟩ := Option.ne_none_iff_exists'.mp (hposition.not.mp hfound)
    obtain ⟨x, hx⟩ := firstEqual_of_findIdx? hplace
    exact (hx.not_isNaN y hy).1 hitem

end Calls

def nestedItem : Value := .list [.number 2, .nil]

/-- The item in another shape and once more, behind `nil` and what is no number. -/
def nestedItems : List Value :=
  [.nil, .number Numeric.notANumber, .list [.number 2, .list []], .string "b", nestedItem]

theorem searches_agree_nested :
    (Value.list nestedItems).items? = some nestedItems ∧
      ∃ tail kept, Agree (fun _ _ => .pure .nil) 0 default nestedItem (.list nestedItems)
        nestedItems (.ofNat 2) tail kept := by
  have hlist : (Value.list nestedItems).items? = some nestedItems := rfl
  obtain ⟨index, tail, kept, hagree⟩ :=
    searches_agree (fun _ _ => .pure .nil) 0 default nestedItem hlist
  have hfind : nestedItems.findIdx? (· == nestedItem) = some 2 := by decide +kernel
  have hcall := position_call (fun _ _ => .pure .nil) 0 default nestedItem hlist
  rw [positionOf, hfind] at hcall
  obtain rfl : index = .ofNat 2 :=
    Except.ok.inj (Run.done.inj (hagree.position.symm.trans hcall)).1
  exact ⟨hlist, tail, kept, hagree⟩

end DraftLisp.Builtin.Lists

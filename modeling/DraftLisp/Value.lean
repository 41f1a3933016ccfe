import DraftLisp.Form
import DraftLisp.Geometry.Point
import DraftLisp.Numeric.Nearest

namespace DraftLisp

/-- The number under which a drawing knows an entity. -/
abbrev EntityId := Nat

inductive Value where
  | nil
  | truth
  | number (value : Float)
  | string (text : String)
  | symbol (name : String)
  | list (items : List Value)
  /-- A function made by `lambda`: its identity, its parameters, its body and the variables that it
  saw when it was made. -/
  | closure (identity : Nat) (params : List String) (body : List Form)
      (captured : List (String × Value))
  | entity (id : EntityId)
  | selection (ids : List EntityId)
  deriving Inhabited

namespace Value

/-- A list value; the empty list is `nil`. -/
def ofList : List Value → Value
  | [] => .nil
  | items => .list items

def ofBool (b : Bool) : Value := if b then .truth else .nil

/-- `nil` stands for what is missing. -/
def ofOption : Option Value → Value
  | some value => value
  | none => .nil

def ofNat (n : Nat) : Value := .number (Numeric.ofNat n)

def isNil : Value → Bool
  | .nil => true
  | .list items => items.isEmpty
  | _ => false

/-- All values but `nil` and the empty list count as true. -/
def isTruthy (value : Value) : Bool := !value.isNil

/-- The elements of a list; `nil` has none. -/
def items? : Value → Option (List Value)
  | .nil => some []
  | .list items => some items
  | _ => none

def number? : Value → Option Float
  | .number x => some x
  | _ => none

/-- A list of two or three numbers is a point; the third is not used. -/
def point? : Value → Option Point
  | .list [.number x, .number y] => some ⟨x, y⟩
  | .list [.number x, .number y, .number _] => some ⟨x, y⟩
  | _ => none

def ofPoint (p : Point) : Value := .list [.number p.x, .number p.y, .number 0.0]

/-- The name under which `type` knows the kind of a value. -/
def typeName : Value → String
  | .nil => "NIL"
  | .truth | .symbol _ => "SYM"
  | .number _ => "REAL"
  | .string _ => "STR"
  | .list _ => "LIST"
  | .closure .. => "USUBR"
  | .entity _ => "ENAME"
  | .selection _ => "PICKSET"

mutual

/-- Equality of values: numbers as numbers, closures by identity, all else by content. -/
def beq : Value → Value → Bool
  | .nil, .nil => true
  | .nil, .list items => items.isEmpty
  | .list items, .nil => items.isEmpty
  | .truth, .truth => true
  | .number x, .number y => x == y
  | .string s, .string t => s == t
  | .symbol s, .symbol t => s == t
  | .list xs, .list ys => beqItems xs ys
  | .closure i _ _ _, .closure j _ _ _ => i == j
  | .entity i, .entity j => i == j
  | .selection is, .selection js => is == js
  | _, _ => false

def beqItems : List Value → List Value → Bool
  | [], [] => true
  | x :: xs, y :: ys => beq x y && beqItems xs ys
  | _, _ => false

end

instance : BEq Value := ⟨beq⟩

mutual

def ofForm : Form → Value
  | .number x => .number x
  | .string text => .string text
  | .symbol name => if name = "NIL" then .nil else .symbol name
  | .list items => ofList (ofForms items)

def ofForms : List Form → List Value
  | [] => []
  | form :: rest => ofForm form :: ofForms rest

end

theorem ofForms_eq_map (forms : List Form) : ofForms forms = forms.map ofForm := by
  induction forms with
  | nil => rfl
  | cons form rest ih => rw [ofForms, List.map_cons, ih]

mutual

/-- Reads data as a form; closures, entities and selections have none. -/
def form? : Value → Option Form
  | .nil => some (.symbol "NIL")
  | .truth => some (.symbol "T")
  | .number x => some (.number x)
  | .string text => some (.string text)
  | .symbol name => some (.symbol name)
  | .list items => (forms? items).map .list
  | .closure .. | .entity _ | .selection _ => none

def forms? : List Value → Option (List Form)
  | [] => some []
  | value :: rest =>
    match form? value, forms? rest with
    | some form, some forms => some (form :: forms)
    | _, _ => none

end

@[simp] theorem isTruthy_nil : isTruthy .nil = false := rfl

@[simp] theorem items?_ofList (items : List Value) : (ofList items).items? = some items := by
  cases items <;> rfl

end Value

end DraftLisp

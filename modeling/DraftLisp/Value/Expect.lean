import DraftLisp.Error

namespace DraftLisp.Value

/-- What a partial reading gives, or the type error that names what was expected. -/
def orExpected (what : String) (value : Value) : Option α → Except Error α
  | some found => .ok found
  | none => .error (.type (.expected what value))

def expectList (value : Value) : Except Error (List Value) := orExpected "list" value value.items?

def expectNumber (value : Value) : Except Error Float := orExpected "number" value value.number?

def expectPoint (value : Value) : Except Error Point := orExpected "point" value value.point?

def string? : Value → Option String
  | .string text => some text
  | _ => none

def entity? : Value → Option EntityId
  | .entity id => some id
  | _ => none

def selection? : Value → Option (List EntityId)
  | .selection ids => some ids
  | _ => none

def expectString (value : Value) : Except Error String := orExpected "string" value value.string?

def expectEntity (value : Value) : Except Error EntityId :=
  orExpected "entity name" value value.entity?

def expectSelection (value : Value) : Except Error (List EntityId) :=
  orExpected "selection set" value value.selection?

end DraftLisp.Value

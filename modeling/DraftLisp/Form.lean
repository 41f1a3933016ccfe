namespace DraftLisp

/-- A parsed expression. Symbols carry their canonical, uppercase name. -/
inductive Form where
  | number (value : Float)
  | string (text : String)
  | symbol (name : String)
  | list (items : List Form)
  deriving Repr, Inhabited

namespace Form

def symbol? : Form → Option String
  | .symbol name => some name
  | _ => none

mutual

/-- Equality with numbers compared as numbers: both zeros are equal, and no number is not equal to
itself. -/
def beq : Form → Form → Bool
  | .number x, .number y => x == y
  | .string s, .string t => s == t
  | .symbol s, .symbol t => s == t
  | .list xs, .list ys => beqItems xs ys
  | _, _ => false

def beqItems : List Form → List Form → Bool
  | [], [] => true
  | x :: xs, y :: ys => beq x y && beqItems xs ys
  | _, _ => false

end

instance : BEq Form := ⟨beq⟩

def quoted (form : Form) : Form := .list [.symbol "QUOTE", form]

end Form

end DraftLisp

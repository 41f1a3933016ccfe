import DraftLisp.Builtin.Basic

namespace DraftLisp.Builtin

open Value (expectList expectNumber)

namespace Lists

def car (list : Value) : Except Error Value := do
  return (← expectList list).headD .nil

def cdr (list : Value) : Except Error Value := do
  return .ofList (← expectList list).tail

/-- Before the elements of a list, or in a pair with what is no list. -/
def cons (first rest : Value) : Value :=
  match rest.items? with
  | some items => .list (first :: items)
  | none => .list [first, rest]

def append (lists : List Value) : Except Error Value := do
  return .ofList (← lists.mapM expectList).flatten

def member (item : Value) : List Value → Value
  | [] => .nil
  | x :: rest => if x == item then .list (x :: rest) else member item rest

def assoc (key : Value) (entries : List Value) : Value :=
  .ofOption <| entries.find? fun entry =>
    match entry.items? with
    | some (first :: _) => first == key
    | _ => false

mutual

def substitute (new old : Value) (tree : Value) : Value :=
  if tree == old then new
  else
    match tree with
    | .list items => .ofList (substituteItems new old items)
    | other => other

def substituteItems (new old : Value) : List Value → List Value
  | [] => []
  | item :: rest => substitute new old item :: substituteItems new old rest

end

def nth (index : Float) (items : List Value) : Value :=
  .ofOption ((position? index).bind (items[·]?))

def positionOf (item : Value) (items : List Value) : Value :=
  .ofOption ((items.findIdx? (· == item)).map .ofNat)

def without (item : Value) (items : List Value) : Value := .ofList (items.filter (· != item))

end Lists

open DraftLisp.Builtin.Lists

def listOperator (name : String) (run : List Value → Except Error Value) : Builtin :=
  function name (.exactly 1) (unary expectList run)

def lists : List Builtin :=
  [function "CAR" (.exactly 1) (unary anyValue car),
   function "CDR" (.exactly 1) (unary anyValue cdr),
   function "CAAR" (.exactly 1) (unary anyValue fun list => do car (← car list)),
   function "CADR" (.exactly 1) (unary anyValue fun list => do car (← cdr list)),
   function "CDAR" (.exactly 1) (unary anyValue fun list => do cdr (← car list)),
   function "CDDR" (.exactly 1) (unary anyValue fun list => do cdr (← cdr list)),
   function "CADDR" (.exactly 1) (unary anyValue fun list => do car (← cdr (← cdr list))),
   function "LIST" .any (variadic anyValues fun items => .ok (.ofList items)),
   function "CONS" (.exactly 2) (binary anyValue anyValue fun first rest => .ok (cons first rest)),
   function "APPEND" .any (variadic anyValues append),
   listOperator "LENGTH" fun items => count items.length,
   function "NTH" (.exactly 2) (binary expectNumber expectList fun index items =>
     .ok (nth index items)),
   listOperator "LAST" fun items => .ok (.ofOption items.getLast?),
   listOperator "REVERSE" fun items => .ok (.ofList items.reverse),
   function "MEMBER" (.exactly 2) (binary anyValue anyValue fun item list => do
     return member item (← expectList list)),
   function "ASSOC" (.exactly 2) (binary anyValue expectList fun key entries =>
     .ok (assoc key entries)),
   function "SUBST" (.exactly 3) (ternary anyValue anyValue anyValue fun new old list => do
     let _ ← expectList list
     return substitute new old list),
   function "VL-POSITION" (.exactly 2) (binary anyValue expectList fun item items =>
     .ok (positionOf item items)),
   function "VL-REMOVE" (.exactly 2) (binary anyValue expectList fun item items =>
     .ok (without item items))]

end DraftLisp.Builtin

import DraftLisp.Builtin.Basic

namespace DraftLisp.Builtin

open Value (expectNumber expectEntity expectSelection)

namespace Selections

def member (ids : List EntityId) (index : Float) : Value :=
  .ofOption (((position? index).bind (ids[·]?)).map .entity)

/-- A new member goes to the end; a member stays where it is. -/
def insert (id : EntityId) (ids : List EntityId) : List EntityId :=
  if ids.contains id then ids else ids ++ [id]

/-- Without operands an empty set, with an entity the set of it, with both the greater set. -/
def add : List Value → Except Error Value
  | [] => .ok (.selection [])
  | [entity] => do return .selection [← expectEntity entity]
  | entity :: set :: _ => do
    let id ← expectEntity entity
    return .selection (insert id (← expectSelection set))

def delete (id : EntityId) (set : Value) : Except Error Value := do
  let ids ← expectSelection set
  return if ids.contains id then .selection (ids.filter (· ≠ id)) else .nil

def memberIn (id : EntityId) (set : Value) : Except Error Value := do
  let ids ← expectSelection set
  return if ids.contains id then .entity id else .nil

end Selections

open Selections

def selections : List Builtin :=
  [function "SSLENGTH" (.exactly 1) (unary expectSelection fun ids => count ids.length),
   function "SSNAME" (.exactly 2) (binary anyValue expectNumber fun set index => do
     return member (← expectSelection set) index),
   function "SSADD" (.between 0 2) (variadic anyValues add),
   function "SSDEL" (.exactly 2) (binary expectEntity anyValue delete),
   function "SSMEMB" (.exactly 2) (binary expectEntity anyValue memberIn)]

end DraftLisp.Builtin

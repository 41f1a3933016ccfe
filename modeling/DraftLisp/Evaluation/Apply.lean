import DraftLisp.Evaluation.Callable

/-!
An evaluator is given as a parameter: `ev level form` evaluates a form `level + 1` levels below the
form that is being evaluated.
-/

namespace DraftLisp

abbrev Evaluator := Nat → Form → Comp Value

namespace Comp

def mapAll (run : α → Comp β) : List α → Comp (List β)
  | [] => pure []
  | x :: rest => do
    let result ← run x
    let results ← mapAll run rest
    return result :: results

end Comp

/-- Evaluates forms in order; the result is the last value, or the one given if there are none. -/
def evalBody (ev : Form → Comp Value) (last : Value) : List Form → Comp Value
  | [] => pure last
  | form :: rest => do
    let value ← ev form
    evalBody ev value rest

/-- The columns of a table: the first elements of all rows, the second ones, and so on to the end of
the shortest row. -/
def columns (rows : List (List Value)) : List (List Value) :=
  let width := (rows.map List.length).min?.getD 0
  let indexed := rows.map List.toArray
  (List.range width).map fun i => indexed.filterMap (·[i]?)

theorem mem_columns {rows : List (List Value)} {column : List Value} (h : column ∈ columns rows) :
    ∃ i : Nat, column = rows.filterMap (·[i]?) := by
  obtain ⟨i, _, rfl⟩ := List.mem_map.1 h
  have hindexed : ((·[i]?) ∘ List.toArray : List Value → Option Value) = (·[i]?) :=
    funext fun row => by simp
  exact ⟨i, by rw [List.filterMap_map, hindexed]⟩

theorem sizeOf_items_lt {value : Value} {items : List Value} (h : value.items? = some items) :
    sizeOf items ≤ sizeOf value := by
  cases value <;> simp [Value.items?] at h
  · subst h
    decide
  · subst h
    simp

theorem sizeOf_column_le {lists : List Value} {rows : List (List Value)}
    (h : lists.mapM Value.expectList = .ok rows) (i : Nat) :
    sizeOf (rows.filterMap (·[i]?)) ≤ sizeOf lists := by
  induction lists generalizing rows with
  | nil =>
    obtain rfl : [] = rows := by simpa [pure, Except.pure] using h
    simp
  | cons list lists ih =>
    rw [List.mapM_cons] at h
    cases hitems : list.items? with
    | none => simp [Value.expectList, Value.orExpected, hitems, bind, Except.bind] at h
    | some items =>
      cases hrows : lists.mapM Value.expectList with
      | error error =>
        simp [Value.expectList, Value.orExpected, hitems, hrows, bind, Except.bind] at h
      | ok others =>
        obtain rfl : items :: others = rows := by
          simpa [Value.expectList, Value.orExpected, hitems, hrows, bind, Except.bind, pure,
            Except.pure] using h
        have hrest := ih hrows
        have hlist := sizeOf_items_lt hitems
        cases hvalue : items[i]? with
        | none =>
          simp only [List.filterMap_cons, hvalue, List.cons.sizeOf_spec]
          omega
        | some value =>
          have := List.sizeOf_lt_of_mem (List.mem_of_getElem? hvalue)
          simp only [List.filterMap_cons, hvalue, List.cons.sizeOf_spec]
          omega

/-- The operator on operands. A function value runs with the variables that it has seen, a named
function with those of its caller; what it binds is gone when it returns. -/
def apply (ev : Evaluator) (level : Nat) (callable : Callable) (operands : List Value) :
    Comp Value :=
  match callable with
  | .closure params body captured =>
    .within (Callable.bindParams captured params operands) (evalBody (ev level) .nil body)
  | .function function => do
    let frame ← Comp.observe (·.frame)
    .within (Callable.bindParams frame function.params operands)
      (evalBody (ev level) .nil function.body)
  | .builtin operator =>
    match operator.arity.check operands.length with
    | .error error => .fail (error.named operator.name)
    | .ok () =>
      match operator.action with
      | .pure run => .ofExcept (namingHalt operator.name (run operands))
      | .edit run => .edit (namingEdit operator.name (run operands))
      | .input ask => do
        let drawing ← Comp.observe (·.drawing)
        match ask operands drawing with
        | .ok (.answered value) => pure value
        | .ok (.asked request) => .request request
        | .error error => .fail (error.named operator.name)
      | .control .eval =>
        match operands with
        | [value] =>
          match value.form? with
          | none => pure value
          | some form => do
            let frame ← Comp.observe (·.frame)
            .within frame (ev level form)
        | _ => .fail (.arity 1 operands.length none)
      | .control .apply =>
        match operands with
        | [head, list] => do
          let callable ← Comp.observe (Callable.ofValue · head)
          let callable ← Comp.ofResult callable
          match _hitems : list.items? with
          | none => .fail (.type (.expected "list" list))
          | some items => apply ev (level + 1) callable items
        | _ => .fail (.arity 2 operands.length none)
      | .control .mapcar =>
        match operands with
        | head :: lists => do
          let callable ← Comp.observe (Callable.ofValue · head)
          let callable ← Comp.ofResult callable
          match _hrows : lists.mapM Value.expectList with
          | .error error => .fail error
          | .ok rows =>
            let values ← Comp.mapAll
              (fun ⟨column, _hcolumn⟩ => apply ev (level + 1) callable column)
              (columns rows).attach
            return .ofList values
        | _ => .fail (.arity 2 operands.length none)
termination_by sizeOf operands
decreasing_by
  · have := sizeOf_items_lt _hitems
    simp only [List.cons.sizeOf_spec, List.nil.sizeOf_spec]
    omega
  · obtain ⟨i, rfl⟩ := mem_columns _hcolumn
    have := sizeOf_column_le _hrows i
    simp only [List.cons.sizeOf_spec]
    omega

end DraftLisp

namespace DraftLisp

abbrev Bindings (α : Type) := List (String × α)

namespace Bindings

def get? (bindings : Bindings α) (name : String) : Option α := bindings.lookup name

/-- Binds a name in its place, or last when it was not bound. -/
def put (name : String) (value : α) : Bindings α → Bindings α
  | [] => [(name, value)]
  | (other, kept) :: rest =>
    if other == name then (name, value) :: rest else (other, kept) :: put name value rest

/-- The bindings of both; where both bind a name, those of `upper` count. -/
def overlay (upper lower : Bindings α) : Bindings α :=
  upper.foldr (fun (name, value) result => put name value result) lower

def sorted (bindings : Bindings α) : Bindings α :=
  bindings.mergeSort fun a b => decide (a.1 ≤ b.1)

theorem get?_cons (first name : String) (value : α) (rest : Bindings α) :
    get? ((first, value) :: rest) name = if name = first then some value else rest.get? name := by
  rw [get?, List.lookup_cons]
  by_cases h : name = first
  · simp only [h, beq_self_eq_true, if_true]
  · rw [beq_eq_false_iff_ne.2 h, if_neg h]
    rfl

theorem get?_put (bindings : Bindings α) (name other : String) (value : α) :
    (put name value bindings).get? other =
      if other = name then some value else bindings.get? other := by
  induction bindings with
  | nil => exact get?_cons name other value []
  | cons entry rest ih =>
    obtain ⟨first, kept⟩ := entry
    by_cases hfirst : first = name
    · subst hfirst
      by_cases h : other = first <;> simp [put, get?_cons, h]
    · have hput :
          put name value ((first, kept) :: rest) = (first, kept) :: put name value rest := by
        simp [put, hfirst]
      rw [hput, get?_cons, get?_cons, ih]
      by_cases h : other = first
      · subst h
        simp [hfirst]
      · simp [h]

theorem get?_overlay (upper lower : Bindings α) (name : String) :
    (overlay upper lower).get? name = (upper.get? name <|> lower.get? name) := by
  induction upper with
  | nil => rfl
  | cons entry rest ih =>
    obtain ⟨first, value⟩ := entry
    change (put first value (overlay rest lower)).get? name = _
    rw [get?_put, get?_cons, ih]
    split
    · rfl
    · rfl

theorem mem_of_get? {bindings : Bindings α} {name : String} {value : α}
    (h : bindings.get? name = some value) : (name, value) ∈ bindings := by
  obtain ⟨before, after, rfl, -⟩ := List.lookup_eq_some_iff.mp h
  simp

end Bindings

end DraftLisp

namespace DraftLisp.Text.Casing

/-- Every `step`-th code point from `first` to `last`, all `shift` away from their counterparts. -/
structure Run where
  first : Nat
  last : Nat
  step : Nat
  shift : Int

def Run.covers (run : Run) (code : Nat) : Bool :=
  run.first ≤ code && code ≤ run.last && (code - run.first) % run.step == 0

/-- The counterpart of a code point: itself when no run covers it. -/
def shifted (runs : List Run) (code : Nat) : Nat :=
  match runs.find? (·.covers code) with
  | some run => (code + run.shift).toNat
  | none => code

end DraftLisp.Text.Casing

namespace DraftLisp

structure Point where
  x : Float
  y : Float
  deriving Repr, DecidableEq, Inhabited

def Point.origin : Point := ⟨0.0, 0.0⟩

end DraftLisp

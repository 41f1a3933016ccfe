namespace DraftLisp

inductive Token where
  | opening
  | closing
  | quote
  | number (value : Float)
  | string (text : String)
  /-- A symbol by its uppercase name. -/
  | symbol (name : String)
  deriving Repr, DecidableEq

end DraftLisp

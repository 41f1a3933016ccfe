import DraftLisp.Builtin.Arithmetic
import DraftLisp.Builtin.Asking
import DraftLisp.Builtin.Comparison
import DraftLisp.Builtin.Editing
import DraftLisp.Builtin.Lists
import DraftLisp.Builtin.Predicates
import DraftLisp.Builtin.Selections
import DraftLisp.Builtin.Strings

namespace DraftLisp.Builtin

def controls : List Builtin :=
  [⟨"MAPCAR", .atLeast 2, .control .mapcar⟩,
   ⟨"APPLY", .exactly 2, .control .apply⟩,
   ⟨"EVAL", .exactly 1, .control .eval⟩]

/-- Every builtin operator, in the order in which listings show them. -/
def all : List Builtin :=
  arithmetic ++ comparisons ++ lists ++ texts ++ predicates ++ selections ++ editing ++ asking
    ++ controls

def find? (name : String) : Option Builtin := all.find? (·.name == name)

end DraftLisp.Builtin

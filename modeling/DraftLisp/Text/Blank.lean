import DraftLisp.Text.CodeRange

namespace DraftLisp.Text

/-- Code points with the property White_Space. -/
def blankRanges : List CodeRange :=
  [⟨0x9, 0xD⟩, ⟨0x20, 0x20⟩, ⟨0x85, 0x85⟩, ⟨0xA0, 0xA0⟩, ⟨0x1680, 0x1680⟩, ⟨0x2000, 0x200A⟩,
   ⟨0x2028, 0x2029⟩, ⟨0x202F, 0x202F⟩, ⟨0x205F, 0x205F⟩, ⟨0x3000, 0x3000⟩]

def isBlank : Char → Bool := inRanges blankRanges

def dropBlanks (chars : List Char) : List Char :=
  chars.dropWhile isBlank

def trim (chars : List Char) : List Char :=
  (dropBlanks (dropBlanks chars).reverse).reverse

def trimmed (text : String) : String :=
  String.ofList (trim text.toList)

end DraftLisp.Text

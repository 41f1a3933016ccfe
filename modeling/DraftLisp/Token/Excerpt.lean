namespace DraftLisp.Excerpt

/-- The excerpt starts at most this many characters before the place. -/
def lead : Nat := 20

def width : Nat := 60

/-- Where the excerpt around a byte offset starts. -/
def start (offset : Nat) : Nat := offset - lead

/-- The characters shown. The start is counted in characters, though the place is given in bytes. -/
def window (input : List Char) (offset : Nat) : List Char :=
  (input.drop (start offset)).take width

def byteLength : List Char → Nat
  | [] => 0
  | c :: rest => c.utf8Size + byteLength rest

def ellipsis : List Char := "[...]".toList

/-- The excerpt with a mark at each end where the input goes on. -/
def marked (input : List Char) (offset : Nat) : List Char :=
  let shown := window input offset
  (if 0 < start offset then ellipsis else [])
    ++ shown
    ++ (if start offset + byteLength shown < byteLength input then ellipsis else [])

/-- On one line: line feeds are written as an escape and carriage returns left out. -/
def onOneLine (chars : List Char) : List Char :=
  chars.flatMap fun c => if c = '\n' then ['\\', 'n'] else if c = '\r' then [] else [c]

def around (input : String) (offset : Nat) : String :=
  String.ofList (onOneLine (marked input.toList offset))

theorem length_window_le (input : List Char) (offset : Nat) :
    (window input offset).length ≤ width := by
  rw [window, List.length_take]
  exact Nat.min_le_left _ _

end DraftLisp.Excerpt

import DraftLisp.Error
import DraftLisp.Token.Lexer

/-!
Reading tokens as forms. The reader keeps the lists and quotes that are still open, innermost first;
each token extends them, and a finished form goes into the innermost one.
-/

namespace DraftLisp.Reader

/-- Something begun and not yet finished: a list with its elements so far, newest first, or a quote
mark that waits for its form. -/
inductive Opening where
  | list (items : List Form)
  | quote

structure State where
  openings : List Opening
  /-- The finished top-level forms, newest first. -/
  forms : List Form

def State.start : State := ⟨[], []⟩

/-- Puts a finished form into the innermost opening; quotes around it are finished by it. -/
def deliver (form : Form) (forms : List Form) : List Opening → State
  | [] => ⟨[], form :: forms⟩
  | .quote :: outer => deliver form.quoted forms outer
  | .list items :: outer => ⟨.list (form :: items) :: outer, forms⟩

/-- Begins a form, which must lie below the nesting limit. -/
def begin (limit : Nat) (state : State) (next : State) : Except SyntaxFault State :=
  if limit ≤ state.openings.length then .error (.nesting limit) else .ok next

def step (limit : Nat) (state : State) : Token → Except SyntaxFault State
  | .closing =>
    match state.openings with
    | .list items :: outer => .ok (deliver (.list items.reverse) state.forms outer)
    | _ => if limit ≤ state.openings.length then .error (.nesting limit) else .error .closing
  | .opening => begin limit state ⟨.list [] :: state.openings, state.forms⟩
  | .quote => begin limit state ⟨.quote :: state.openings, state.forms⟩
  | .number value => begin limit state (deliver (.number value) state.forms state.openings)
  | .string text => begin limit state (deliver (.string text) state.forms state.openings)
  | .symbol name => begin limit state (deliver (.symbol name) state.forms state.openings)

def Opening.isList : Opening → Bool
  | .list _ => true
  | .quote => false

/-- The forms read, once there are no more tokens. -/
def State.finish (state : State) : Except SyntaxFault (List Form) :=
  match state.openings with
  | [] => .ok state.forms.reverse
  | .quote :: _ => .error .quoteAtEnd
  | .list _ :: _ => .error (.unclosed (state.openings.countP (·.isList)))

/-- The forms of a token list, each nested below the limit. -/
def forms (limit : Nat) (tokens : List Token) : Except SyntaxFault (List Form) :=
  match tokens.foldlM (step limit) .start with
  | .ok state => state.finish
  | .error fault => .error fault

/-- The nesting limit where none is chosen. -/
def defaultLimit : Nat := 256

def read (limit : Nat) (tokens : List Token) : Except Error (List Form) :=
  (forms limit tokens).mapError .syntactic

def readText (limit : Nat) (input : String) : Except Error (List Form) :=
  match Token.tokenize input with
  | .ok tokens => read limit tokens
  | .error error => .error error

end DraftLisp.Reader

import DraftLisp.Console.Typed
import DraftLisp.Interpreter

namespace DraftLisp

structure Console.Options where
  script : Option String
  /-- Whether the dialogue goes on after the script. -/
  interactive : Bool
  echo : Bool
  deriving Repr, Inhabited

inductive Console.Next where
  | leave
  | dialogue
  | line
  deriving Repr, DecidableEq

inductive Console.Mode where
  | reading
  /-- The next line answers a request. -/
  | asking (execution : Execution) (request : Request) (next : Console.Next)
  | closed (code : Nat)

structure Console where
  interpreter : Interpreter
  /-- How many lines of the log have been shown. -/
  printed : Nat
  mode : Console.Mode

namespace Console

def newline : String := "\n"

def logLine (text : String) : LogStyle → String
  | .output | .prompt => text
  | .result => "=> " ++ text ++ newline
  | .error => text ++ newline
  | .alert => "[alert] " ++ text ++ newline

/-- The lines of the log that have not been shown. After script output the line is ended. -/
def freshText (fresh : List (String × LogStyle)) : String :=
  String.join (fresh.map fun (text, style) => logLine text style)
    ++ (match fresh.getLast? with
      | some (_, .output) => newline
      | _ => "")

def flush (drawing : Drawing) (printed : Nat) : String × Nat :=
  (freshText (drawing.log.toList.drop printed), drawing.log.size)

def banner : String :=
  "CAD macro console\n"
    ++ "Enter expressions like: (entmake (list (list 0 \"CIRCLE\") (list 40 5)))\n"
    ++ "Type :help for more commands, or Ctrl+C to exit.\n"
    ++ "\n"

def farewell : String := "Goodbye!\n"

def help : String :=
  "CAD macro console commands:\n"
    ++ "  :help      - Show this help message\n"
    ++ "  :env       - Show global variables\n"
    ++ "  :entities  - Show the drawing as association lists\n"
    ++ "  :builtins  - List builtin functions\n"
    ++ "  :quit      - Exit the interpreter\n"
    ++ "  :exit      - Exit the interpreter\n"
    ++ "  Ctrl+C     - Exit the interpreter\n"
    ++ "\n"
    ++ "Answering input requests:\n"
    ++ "  points:    5,7  or  [5,7]  or  \x7b\"x\":5,\"y\":7\x7d\n"
    ++ "  numbers:   2.5\n"
    ++ "  entsel:    \x7b\"entity\":1,\"point\":[0,0]\x7d\n"
    ++ "  ssget:     [1,2,3]\n"
    ++ "  empty line cancels the request (the script receives nil)\n"
    ++ "\n"
    ++ "Examples:\n"
    ++ "  (defun sq (x) (* x x))\n"
    ++ "  (setq c (getpoint \"Center: \"))\n"
    ++ "  (entmake (list (list 0 \"CIRCLE\") (list 10 (car c)) (list 20 (cadr c)) "
    ++ "(list 40 (sq 2))))\n"
    ++ "\n"

def environment (interpreter : Interpreter) : String :=
  let bindings := interpreter.session.globals.sorted
  if bindings.isEmpty then "No global variables.\n"
  else
    "Global variables (" ++ bindings.length.repr ++ " total):\n"
      ++ String.join (bindings.map fun (name, value) =>
        "  " ++ name ++ " = " ++ value.text ++ newline)

def entities (drawing : Drawing) : String :=
  if drawing.entities.isEmpty then "The drawing is empty.\n"
  else
    String.join
      (drawing.entities.toList.map fun entity => (Groups.describe entity).text ++ newline)

def column (name : String) : String :=
  "  " ++ name ++ String.ofList (List.replicate (20 - name.length) ' ')

def table (place : Nat) : List String → String
  | [] => if place % 4 = 0 then "" else newline
  | name :: rest =>
    column name ++ (if (place + 1) % 4 = 0 then newline else "") ++ table (place + 1) rest

def builtins : String := table 0 (Builtin.all.map (·.name))

/-- What the console does once a script has its value. -/
def conclude (console : Console) (next : Next) (value : Value) : String × Console :=
  let shown := if console.interpreter.config.echoResult then "" else value.text ++ newline
  match next with
  | .leave => (shown, { console with mode := .closed 0 })
  | .dialogue => (banner, { console with mode := .reading })
  | .line => (shown, { console with mode := .reading })

/-- Shows what a step has logged and does what the step calls for. -/
def settle (console : Console) (next : Next) (step : Step) (execution : Execution) :
    String × Console :=
  let interpreter := execution.interpreter
  match step with
  | .halted _ => ("", { console with interpreter, mode := .closed 1 })
  | step =>
    let (shown, printed) := flush interpreter.session.drawing console.printed
    match step with
    | .finished value =>
      let (text, console) := conclude { console with interpreter, printed } next value
      (shown ++ text, console)
    | .awaiting request =>
      (shown, { interpreter, printed, mode := .asking execution request next })
    | _ =>
      let left := execution.close
      let (text, console) := conclude { console with interpreter := left, printed } next .nil
      (shown ++ "Script stalled without an input request\n" ++ text, console)

def runBatch (console : Console) (next : Next) (source : String) : String × Console :=
  let (step, execution) := (Execution.start console.interpreter source).step
  console.settle next step execution

/-- Answers the request of the running script; an empty line or the end of input gives it up. -/
def answer (console : Console) (execution : Execution) (next : Next) (line : Option String) :
    String × Console :=
  let (step, execution) :=
    match line with
    | none => execution.abandon
    | some line =>
      if (Text.trimmed line).isEmpty then execution.abandon else execution.answer (typedAnswer line)
  console.settle next step execution

def dialogueLine (console : Console) (line : String) : String × Console :=
  match Text.trimmed line with
  | "" => ("", console)
  | ":help" => (help, console)
  | ":env" => (environment console.interpreter, console)
  | ":entities" => (entities console.interpreter.session.drawing, console)
  | ":builtins" => (builtins, console)
  | ":quit" | ":exit" => (farewell, { console with mode := .closed 0 })
  | source => console.runBatch .line source

/-- Takes the next line of input, or the end of input. -/
def feed (console : Console) (line : Option String) : String × Console :=
  match console.mode, line with
  | .closed _, _ => ("", console)
  | .asking execution _ next, line => console.answer execution next line
  | .reading, some line => console.dialogueLine line
  | .reading, none => (farewell, { console with mode := .closed 0 })

/-- Starts the console: its script runs first, then comes the dialogue. -/
def start (options : Options) : String × Console :=
  let config := { Config.default with echoResult := options.echo }
  let console : Console := ⟨.new config, 0, .reading⟩
  match options.script with
  | some script => console.runBatch (if options.interactive then .dialogue else .leave) script
  | none => (banner, console)

def exitCode? (console : Console) : Option Nat :=
  match console.mode with
  | .closed code => some code
  | _ => none

def invitation (console : Console) : String :=
  match console.mode with
  | .reading => "lisp> "
  | .asking _ request _ =>
    let place := match request.base with
      | some base => " from " ++ Numeric.plainText base.x ++ "," ++ Numeric.plainText base.y
      | none => ""
    "  [" ++ request.kind.name ++ place ++ "] "
  | .closed _ => ""

def feedAll (console : Console) : List String → String × Console
  | [] => ("", console)
  | line :: rest =>
    match console.exitCode? with
    | some _ => ("", console)
    | none =>
      let (shown, console) := console.feed (some line)
      let (others, console) := feedAll console rest
      (shown ++ others, console)

/-- Tells the console that there is no more input until it closes. A script may ask again each time
its request is given up, so the number of times is bounded. -/
def drain (console : Console) : (rounds : Nat) → String × Console
  | 0 => ("", console)
  | rounds + 1 =>
    match console.exitCode? with
    | some _ => ("", console)
    | none =>
      let (shown, console) := console.feed none
      let (others, console) := drain console rounds
      (shown ++ others, console)

def inputLines (input : String) : List String :=
  match (input.splitOn "\n").reverse with
  | "" :: lines => lines.reverse
  | lines => lines.reverse

def transcript (options : Options) (input : String) : String × Nat :=
  let (opening, console) := start options
  let (dialogue, console) := console.feedAll (inputLines input)
  let (closing, console) := console.drain console.interpreter.config.rounds
  (opening ++ dialogue ++ closing, console.exitCode?.getD 1)

end Console

end DraftLisp

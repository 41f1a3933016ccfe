import DraftLisp.Evaluation
import DraftLisp.Form.Reader

namespace DraftLisp

structure Config where
  /-- The reader refuses lists and quotes nested as deep as this. -/
  parseDepth : Nat
  /-- Evaluation refuses forms and calls nested as deep as this. -/
  evalDepth : Nat
  /-- Whether the value of a script is written to the log. -/
  echoResult : Bool
  rounds : Nat
  deriving Repr, Inhabited

def Config.default : Config := ⟨Reader.defaultLimit, 1024, false, 0xFFFFFFFFFFFFFFFF⟩

structure Interpreter where
  config : Config
  session : Session
  broker : Broker
  deriving Inhabited

/-- A script on its way: not begun, waiting for the outcome of a request, or ended. -/
inductive Task where
  | ready (body : Comp Value)
  | waiting (ticket : Ticket) (resume : Settlement → Run Value)
  | ended (outcome : Except Halt Value)

namespace Interpreter

def new (config : Config) : Interpreter := ⟨config, .empty, .empty⟩

/-- A function that a script has named, whatever the case of the name. -/
def function? (interpreter : Interpreter) (name : String) : Option Function :=
  interpreter.session.functions.get? (Text.upper name)

def parse (interpreter : Interpreter) (source : String) : Except Error (List Form) :=
  Reader.readText interpreter.config.parseDepth source

/-- Evaluates the forms of a text; a text that cannot be read is an error. -/
def evaluation (interpreter : Interpreter) (source : String) : Comp Value :=
  match interpreter.parse source with
  | .ok forms => evalProgram interpreter.config.rounds interpreter.config.evalDepth forms
  | .error error => .fail error

def writeLog (text : String) (style : LogStyle) (state : State) : State :=
  { state with drawing := state.drawing.writeLog text style }

/-- Ends a run with its value in every case: an error is written to the log and gives nil. -/
def report (echo : Bool) : Run Value → Run Value
  | .done (.ok value) state =>
    .done (.ok value) (if echo then writeLog value.text .result state else state)
  | .done (.error (.error error)) state =>
    .done (.ok .nil) (writeLog ("Error: " ++ error.message) .error state)
  | .done (.error halt) state => .done (.error halt) state
  | .waiting request state resume =>
    .waiting request state fun answer => report echo (resume answer)

/-- A script that reports its outcome to the log. -/
def batch (interpreter : Interpreter) (source : String) : Comp Value := fun state =>
  report interpreter.config.echoResult (interpreter.evaluation source state)

/-- Takes a run up to where it ends or waits, and opens the request that it waits for. -/
def advance (interpreter : Interpreter) : Run Value → Interpreter × Task
  | .done outcome state => ({ interpreter with session := state.toSession }, .ended outcome)
  | .waiting request state resume =>
    let (ticket, broker) := interpreter.broker.request request
    ({ interpreter with session := state.toSession, broker }, .waiting ticket resume)

/-- Goes on with a task as far as possible. -/
def poll (interpreter : Interpreter) : Task → Interpreter × Task
  | .ready body => interpreter.advance (body { interpreter.session with frame := [] })
  | .waiting ticket resume =>
    match interpreter.broker.poll ticket with
    | none => (interpreter, .waiting ticket resume)
    | some (outcome, broker) => { interpreter with broker }.advance (resume outcome)
  | .ended outcome => (interpreter, .ended outcome)

end Interpreter

inductive Step where
  | finished (value : Value)
  | awaiting (request : Request)
  /-- It waits, but no request is open. -/
  | stalled
  | halted (reason : Halt)

structure Execution where
  interpreter : Interpreter
  task : Task

namespace Execution

def start (interpreter : Interpreter) (source : String) : Execution :=
  ⟨interpreter, .ready (interpreter.batch source)⟩

def isFinished (execution : Execution) : Bool :=
  match execution.task with
  | .ended _ => true
  | _ => false

def onBroker (change : Broker → Broker) (execution : Execution) : Execution :=
  { execution with
    interpreter := { execution.interpreter with broker := change execution.interpreter.broker } }

/-- Goes on as far as possible. -/
def poll (execution : Execution) : Execution :=
  let (interpreter, task) := execution.interpreter.poll execution.task
  ⟨interpreter, task⟩

def standing (execution : Execution) : Step :=
  match execution.task with
  | .ended (.ok value) => .finished value
  | .ended (.error reason) => .halted reason
  | _ =>
    match execution.interpreter.broker.pending with
    | some request => .awaiting request
    | none => .stalled

def step (execution : Execution) : Step × Execution :=
  let next := execution.poll
  (next.standing, next)

def answer (raw : Json) (execution : Execution) : Step × Execution :=
  (execution.onBroker (·.resolve raw)).step

/-- Gives the open request up and goes on. -/
def abandon (execution : Execution) : Step × Execution :=
  (execution.onBroker (·.cancel)).step

/-- Leaves the script. Unless it is finished, the open request is given up. -/
def close (execution : Execution) : Interpreter :=
  if execution.isFinished then execution.interpreter
  else (execution.onBroker (·.cancel)).interpreter

end Execution

end DraftLisp

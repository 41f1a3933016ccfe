import DraftLisp.Console

namespace DraftLisp.Main

structure Arguments where
  file : Option String
  command : Option String
  interactive : Bool
  echo : Bool

/-- Reads the program's arguments. The pause between the steps of a command is accepted; a drawing
in memory settles at once, so that it is not used. -/
def Arguments.read (found : Arguments) : List String → Except String Arguments
  | [] => .ok found
  | "-c" :: command :: rest | "--cmd" :: command :: rest =>
    read { found with command := some command } rest
  | "-i" :: rest | "--interactive" :: rest => read { found with interactive := true } rest
  | "--echo" :: rest => read { found with echo := true } rest
  | "--pacing" :: time :: rest =>
    if time.isNat then read found rest else .error ("invalid pacing: " ++ time)
  | argument :: rest =>
    if argument.startsWith "-" || found.file.isSome then
      .error ("unexpected argument: " ++ argument)
    else read { found with file := some argument } rest

def put (text : String) : IO Unit := do
  let out ← IO.getStdout
  out.putStr text
  out.flush

partial def converse (input : IO.FS.Stream) (console : Console) : IO UInt32 := do
  match console.exitCode? with
  | some code => return code.toUInt32
  | none =>
    if ← input.isTty then put console.invitation
    let line ← input.getLine
    let typed := if line.isEmpty then none else some line
    let (shown, console) := console.feed typed
    put shown
    converse input console

def runWith (arguments : Arguments) : IO UInt32 := do
  let script ← match arguments.command, arguments.file with
    | some command, _ => pure (some command)
    | none, some file => some <$> IO.FS.readFile file
    | none, none => pure none
  let (shown, console) := Console.start ⟨script, arguments.interactive, arguments.echo⟩
  put shown
  converse (← IO.getStdin) console

end DraftLisp.Main

open DraftLisp.Main in
def main (args : List String) : IO UInt32 := do
  match Arguments.read ⟨none, none, false, false⟩ args with
  | .error message =>
    IO.eprintln message
    return 2
  | .ok arguments =>
    try runWith arguments
    catch error =>
      IO.eprintln (toString error)
      return 2

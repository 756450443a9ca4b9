import MemoAssist.Cli.Run
import MemoAssist.ErrorLog

/-! The program on the command line. The exchange with a backend belongs to a client that is handed
in; this program comes without one, so that every backend counts as unreachable. -/
namespace MemoAssist.Cli.Program

open MemoAssist

/-- The variables that the program looks at. -/
def variableNames : List String :=
  ["HOME", "MEMOAI_HOME", "MEMOAI_CONFIG", "MEMOAI_MASTER_KEY", "OPENAI_API_KEY",
   "ANTHROPIC_API_KEY", "GEMINI_API_KEY", "GOOGLE_API_KEY", "OLLAMA_HOST"]

/-- Of home directories only the one in the variables is known. -/
def environment : IO Environment := do
  let values ← variableNames.mapM fun name => do
    return (← IO.getEnv name).map fun value => (name, value)
  return { bindings := values.filterMap id, accounts := [], account := "" }

def lookAt (path : FilePath) : IO Found := do
  try
    if ← (← IO.FS.realPath path.text).isDir then return .folder
    return .file (← IO.FS.readBinFile path.text).data.toList
  catch _ => return .nothing

/-- What stands at a path and on the way to it. -/
def lookAlong (path : FilePath) : IO Files :=
  (List.range path.parts.length).mapM fun i => do
    let way : FilePath := { path with parts := path.parts.take (i + 1) }
    return (way.place, ← lookAt way)

/-- The standard input is read only by a command that asks for it. -/
def inputFor (command : Command) : IO String :=
  match command with
  | .complete "-" .. | .tags "-" .. | .summarize "-" .. => do (← IO.getStdin).readToEnd
  | _ => pure ""

def surroundings (i : Invocation) : IO Surroundings := do
  let env ← environment
  let ways := [env.home, settingsPath env i.config].filterMap Except.toOption
  return { env, input := ← inputFor i.command, files := (← ways.mapM lookAlong).flatten }

/-- Append to a log that only its owner may read. That it cannot be written keeps nobody from
working. -/
def appendTo (path : FilePath) (text : String) : IO Unit := do
  try
    let folder : FilePath := { path with parts := path.parts.dropLast }
    IO.FS.createDirAll folder.text
    let handle ← IO.FS.Handle.mk path.text .append
    IO.setAccessRights path.text { user := { read := true, write := true } }
    handle.putStr text
  catch _ => pure ()

/-- The journal, each line with the moment at which the run ended by its own clock. A line that has
no bytes is lost. -/
def journalText (world : World Float) : String :=
  let moment := (Instant.ofReading world.time.now).text
  let lines := (world.journal.map Event.line).filter fun line => !Text.hasHalf line
  String.join (lines.map fun line => moment ++ " " ++ line ++ "\n")

def keepLogs (report : Report) (world : World Float) : IO Unit := do
  if let some path := report.opsLog then appendTo path (journalText world)
  if let some (path, fault) := report.unexpected then
    appendTo path (ErrorLog.entry (Instant.ofReading world.time.now) "memoai CLI" fault)

/-- Nobody can be reached. -/
def unreachable : Client Float := fun _ => { outcome := .broken "no connection" }

def execute (i : Invocation) : IO UInt32 := do
  let world : World Float := .start unreachable
  let (report, world) := run (← surroundings i) i world
  keepLogs report world
  let out ← IO.getStdout
  let err ← IO.getStderr
  out.putStr (if ← out.isTty then report.out else report.withoutStyles.out)
  err.putStr (if ← err.isTty then report.err else report.withoutStyles.err)
  return report.status.code.toUInt32

end MemoAssist.Cli.Program

open MemoAssist.Cli in
def main (words : List String) : IO UInt32 := do
  match Invocation.ofWords words with
  | .ok i => Program.execute i
  | .error misuse =>
    (← IO.getStderr).putStr (Session.error misuse.message ++ "\n")
    return Status.misused.code.toUInt32

import MemoAssist.Cli.Command
import MemoAssist.Cli.Files
import MemoAssist.Setting.Document
import MemoAssist.Text.Quoted
import MemoAssist.Text.Styles
import MemoAssist.World

namespace MemoAssist.Cli

/-- What surrounds a run. -/
structure Surroundings where
  env : Environment
  /-- All that can be read from the standard input. -/
  input : String
  files : Files

inductive Status where
  | done
  | failed
  | misused
deriving DecidableEq, Repr

def Status.code : Status → Nat
  | .done => 0
  | .failed => 1
  | .misused => 2

/-- A run of a command so far. -/
structure Session (τ : Type) where
  world : World τ
  out : String := ""
  err : String := ""
  /-- Where the journal goes, once it has been opened. -/
  opsLog : Option FilePath := none

/-- What is left of a run. A failure that no command expects goes into the log of failures. -/
structure Report where
  status : Status
  out : String
  err : String
  opsLog : Option FilePath := none
  unexpected : Option (FilePath × Fault) := none

namespace Session

variable {τ : Type} [TimeScale τ]

def onWorld {α : Type} (work : Act (World τ) α) : Act (Session τ) α :=
  Act.within Session.world (fun world s => { s with world }) work

/-- Write a line for whoever asked. -/
def tell (line : String) : Act (Session τ) Unit :=
  Act.modify fun s => { s with out := s.out ++ line ++ "\n" }

/-- Write a line with a text in it that a backend sent. A line without bytes is not begun. -/
def relay (line : String) : Act (Session τ) Unit :=
  if Text.hasHalf line then Act.fail (.of .unencodable) else tell line

/-- Write a line about what went wrong. -/
def complain (line : String) : Act (Session τ) Unit :=
  Act.modify fun s => { s with err := s.err ++ line ++ "\n" }

def error (message : String) : String := "Error: " ++ message

/-- Complain and be done with it. -/
def refuse (message : String) : Act (Session τ) Status := do
  complain (error message)
  pure .failed

/-- The guidance for a failure of language-model work, with its own words where the guidance says
little or a program reads along. What has no bytes is spelled out there. -/
def guide (json : Bool) (f : Fault) : List String :=
  let concern := Concern.of f
  error concern.guidance ::
    if concern = .error ∨ json then ["  " ++ Text.spelledOut f.message] else []

def report (s : Session τ) (status : Status) : Report :=
  { status, out := s.out, err := s.err, opsLog := s.opsLog }

/-- The lines about a failure that no command expects. -/
def apology (path : FilePath) : List String :=
  [error Fault.unspoken, "Details logged to " ++ path.text]

def reportFailure (s : Session τ) (complaints : List String) : Report :=
  { s.report .failed with err := s.err ++ String.join (complaints.map (· ++ "\n")) }

/-- What is left when a command has ended. Without a place for the log of failures there is nothing
to say about an unexpected one. -/
def conclude (env : Environment) (json : Bool) (outcome : Except Fault Status) (s : Session τ) :
    Report :=
  match outcome with
  | .ok status => s.report status
  | .error f =>
    if f.isA .modelWork then s.reportFailure (guide json f)
    else
      match env.errorLogPath with
      | .ok path => { s.reportFailure (apology path) with unexpected := some (path, f) }
      | .error _ => s.report .failed

end Session

/-- What a file shows of a report; a terminal shows the styles too. -/
def Report.withoutStyles (r : Report) : Report :=
  let plain (s : String) := String.ofList (Text.withoutStyles s.toList)
  { r with out := plain r.out, err := plain r.err }

end MemoAssist.Cli

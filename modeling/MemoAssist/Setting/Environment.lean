import MemoAssist.Setting.Basic
import MemoAssist.Fault

namespace MemoAssist

/-- Variables, and the home directories of accounts. -/
structure Environment where
  bindings : List (String × String)
  accounts : List (String × String)
  /-- The account that the program runs under. -/
  account : String

namespace Environment

def lookUp (name : String) (pairs : List (String × String)) : Option String :=
  (pairs.find? fun pair => pair.1 = name).map Prod.snd

def get? (env : Environment) (name : String) : Option String := lookUp name env.bindings

/-- A variable that is empty counts as not set. -/
def set? (env : Environment) (name : String) : Option String := (env.get? name).filter (· ≠ "")

end Environment

/-- A file path: what it starts from, and its parts without empty ones and dots. -/
structure FilePath where
  root : String
  parts : List String
deriving DecidableEq, Repr

namespace FilePath

/-- Two slashes in front are kept, any other number counts as one. -/
def rootOf (s : List Char) : String :=
  match (s.takeWhile (· = '/')).length with
  | 0 => ""
  | 2 => "//"
  | _ => "/"

def partsFrom (current : List Char) : List Char → List (List Char)
  | [] => [current.reverse]
  | c :: rest =>
    if c = '/' then current.reverse :: partsFrom [] rest else partsFrom (c :: current) rest

def read (s : String) : FilePath :=
  { root := rootOf s.toList
    parts := ((partsFrom [] s.toList).map String.ofList).filter fun p => p ≠ "" ∧ p ≠ "." }

def text (p : FilePath) : String :=
  let joined := p.root ++ "/".intercalate p.parts
  if joined = "" then "." else joined

def append (p : FilePath) (parts : List String) : FilePath := { p with parts := p.parts ++ parts }

def homeless : Fault := ⟨.noHome, "Could not determine home directory."⟩

/-- The home directory that `~` followed by a name, or by nothing, stands for. -/
def homeOf? (env : Environment) (name : String) : Option String :=
  if name = "" then (env.get? "HOME").or (Environment.lookUp env.account env.accounts)
  else Environment.lookUp name env.accounts

def withoutSlashes (s : String) : String := String.ofList (s.toList.reverse.dropWhile (· = '/')).reverse

/-- A path with its home directory put in, if it starts with `~`. -/
def expanded (env : Environment) (p : FilePath) : Except Fault FilePath :=
  match p.root, p.parts with
  | "", first :: rest =>
    match first.toList with
    | '~' :: name =>
      match homeOf? env (String.ofList name) with
      | none => .error homeless
      | some home =>
        let home := withoutSlashes home
        let home := if home = "" then "/" else home
        if home.toList.head? = some '~' then .error homeless
        else .ok ((read home).append rest)
    | _ => .ok p
  | _, _ => .ok p

end FilePath

namespace Environment

def fileName : String := "memoai.toml"

def errorLogName : String := "memoai-errors.log"

def opsLogName : String := "memoai-ops.log"

/-- Where state is kept when nothing is said. -/
def usualHome (env : Environment) : Except Fault FilePath := do
  return (← (FilePath.read "~").expanded env).append [".memoai"]

def home (env : Environment) : Except Fault FilePath :=
  match env.set? "MEMOAI_HOME" with
  | some path => (FilePath.read path).expanded env
  | none => env.usualHome

def settingsPath (env : Environment) : Except Fault FilePath :=
  match env.set? "MEMOAI_CONFIG" with
  | some path => (FilePath.read path).expanded env
  | none => do return (← env.home).append [fileName]

/-- Unlike the other paths, this one is taken as it is written. -/
def errorLogPath (env : Environment) : Except Fault FilePath :=
  match env.set? "MEMOAI_HOME" with
  | some path => .ok ((FilePath.read path).append [errorLogName])
  | none => do return (← env.usualHome).append [errorLogName]

def masterKey? (env : Environment) : Option String := env.set? "MEMOAI_MASTER_KEY"

def keySetup? (key : Option String) : Option ProviderSetting :=
  key.map fun key => { apiKey := key }

/-- A remote family is set up when its key is there, and the local one always. -/
def detected (env : Environment) : Setting :=
  { openai := keySetup? (env.set? "OPENAI_API_KEY")
    anthropic := keySetup? (env.set? "ANTHROPIC_API_KEY")
    gemini := keySetup? ((env.set? "GEMINI_API_KEY").or (env.set? "GOOGLE_API_KEY"))
    ollama := some { host := (env.get? "OLLAMA_HOST").getD "" } }

end Environment

end MemoAssist

import MemoAssist.Cli.Words
import MemoAssist.Provider.Kind
import MemoAssist.Text.Integer

namespace MemoAssist.Cli

inductive Command where
  /-- List the registered providers. -/
  | providers
  /-- List the models of a provider, or of the active one. -/
  | models (kind : Option ProviderKind)
  /-- Ask every configured provider for a sign of life. -/
  | health
  | complete (prompt system model : String) (maxTokens : Int)
  | tags (content : String) (existing : List String) (limit : Int)
  | summarize (content style : String) (length : Int)
  /-- Show a key in part, and check its form if a family is given. -/
  | mask (key : String) (kind : Option ProviderKind)
  | showConfig
deriving DecidableEq, Repr

/-- A command with what holds for all of them. -/
structure Invocation where
  command : Command
  json : Bool := false
  /-- Where the settings are, if the command line says so. -/
  config : Option String := none
deriving DecidableEq, Repr

def verboseForm : OptionForm := ⟨"--verbose", some 'v', false⟩
def jsonForm : OptionForm := ⟨"--json", some 'j', false⟩
def configForm : OptionForm := ⟨"--config", some 'c', true⟩
def providerForm : OptionForm := ⟨"--provider", some 'p', true⟩
def systemForm : OptionForm := ⟨"--system", some 's', true⟩
def modelForm : OptionForm := ⟨"--model", some 'm', true⟩
def maxTokensForm : OptionForm := ⟨"--max-tokens", none, true⟩
def tagForm : OptionForm := ⟨"--tag", some 't', true⟩
def maxForm : OptionForm := ⟨"--max", some 'n', true⟩
def styleForm : OptionForm := ⟨"--style", none, true⟩
def maxLengthForm : OptionForm := ⟨"--max-length", none, true⟩

namespace Words

/-- A family has to be given by its exact word. -/
def kind? (w : Words) (form : OptionForm) : Except Misuse (Option ProviderKind) :=
  match w.value? form.long with
  | none => .ok none
  | some word =>
    match ProviderKind.ofWord? word with
    | some kind => .ok (some kind)
    | none => .error (.badValue form.long word)

def integer (w : Words) (form : OptionForm) (usual : Int) : Except Misuse Int :=
  match w.value? form.long with
  | none => .ok usual
  | some word =>
    match Text.integer? word with
    | some n => .ok n
    | none => .error (.badValue form.long word)

end Words

namespace Command

def readComplete (words : List String) : Except Misuse Command := do
  let w ← readWords [systemForm, modelForm, maxTokensForm] true words
  let maxTokens ← w.integer maxTokensForm 0
  return .complete (← w.only "PROMPT") (w.value systemForm.long "") (w.value modelForm.long "")
    maxTokens

def readTags (words : List String) : Except Misuse Command := do
  let w ← readWords [tagForm, maxForm] true words
  let limit ← w.integer maxForm 5
  return .tags (← w.only "CONTENT") (w.values tagForm.long) limit

def readSummarize (words : List String) : Except Misuse Command := do
  let w ← readWords [styleForm, maxLengthForm] true words
  let length ← w.integer maxLengthForm 200
  return .summarize (← w.only "CONTENT") (w.value styleForm.long "brief") length

def readModels (words : List String) : Except Misuse Command := do
  let w ← readWords [providerForm] true words
  let kind ← w.kind? providerForm
  w.requireNone
  return .models kind

def readMask (words : List String) : Except Misuse Command := do
  let w ← readWords [providerForm] true words
  let kind ← w.kind? providerForm
  return .mask (← w.only "KEY") kind

/-- A command that takes nothing. -/
def readPlain (command : Command) (words : List String) : Except Misuse Command := do
  (← readWords [] true words).requireNone
  return command

def readConfig (words : List String) : Except Misuse Command := do
  let w ← readWords [] false words
  match w.rest with
  | "show" :: rest => readPlain .showConfig rest
  | word :: _ => .error (.unknownCommand word)
  | [] => .error .commandMissing

/-- A command and the words that follow it. -/
def ofWords : List String → Except Misuse Command
  | [] => .error .commandMissing
  | "providers" :: words => readPlain .providers words
  | "models" :: words => readModels words
  | "health" :: words => readPlain .health words
  | "complete" :: words => readComplete words
  | "tags" :: words => readTags words
  | "summarize" :: words => readSummarize words
  | "mask" :: words => readMask words
  | "config" :: words => readConfig words
  | word :: _ => .error (.unknownCommand word)

end Command

/-- Options for all commands come before the command, and its own ones after it. -/
def Invocation.ofWords (words : List String) : Except Misuse Invocation := do
  let w ← readWords [verboseForm, jsonForm, configForm] false words
  return { command := ← Command.ofWords w.rest, json := w.has jsonForm.long
           config := w.value? configForm.long }

end MemoAssist.Cli

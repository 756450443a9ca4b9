import MemoAssist.Cli.Health
import MemoAssist.Cipher.Keys
import MemoAssist.Setting.Apply
import MemoAssist.Tagging.Tagger

namespace MemoAssist.Cli

variable {τ : Type} [TimeScale τ]

open Session

/-- The longest time that one command may take, in seconds. -/
def commandTimeout : Int := 120

/-- Where the settings are: the command line comes before the environment, and either path is taken
as it is written. -/
def settingsPath (env : Environment) (config : Option String) : Except Fault FilePath :=
  match config.or (env.set? "MEMOAI_CONFIG") with
  | some path => .ok (FilePath.read path)
  | none => env.settingsPath

/-- The settings file, or what the environment offers if there is none. -/
def settingsAt (env : Environment) (path : FilePath) : Found → Except Fault Setting
  | .nothing => .ok env.detected
  | .folder => .error (.of .folder)
  | .file bytes => Setting.ofFile path.text bytes

/-- Work with the settings and what was found at their path; what is no valid settings file is
refused with its fault. -/
def withSetting (env : Environment) (files : Files) (config : Option String)
    (work : FilePath → Found → Setting → Act (Session τ) Status) : Act (Session τ) Status := do
  let path ← Act.ofExcept (settingsPath env config)
  let found ← Act.ofExcept (files.foundAt path)
  match settingsAt env path found with
  | .ok setting => work path found setting
  | .error f => if f.isA .badValue then refuse f.message else Act.fail f

/-- Work with the providers that the settings name, within the time of a command. From here on the
journal is kept. -/
def withProviders (around : Surroundings) (config : Option String)
    (work : ScopeId → Registry (Provider τ) → Act (Session τ) Status) : Act (Session τ) Status := do
  let scope ← onWorld (World.openScope (some (TimeScale.ofInt commandTimeout)) none)
  let home ← Act.ofExcept around.env.home
  let files ← Act.ofExcept (around.files.makeFile home Environment.opsLogName)
  Act.modify fun s => { s with opsLog := some (home.append [Environment.opsLogName]) }
  withSetting around.env files config fun _ _ setting => do
    let (events, registry) := Registry.load id setting {}
    onWorld (events.forM World.report)
    work scope registry

/-- A dash stands for the standard input. -/
def contentOf (around : Surroundings) (word : String) : String :=
  if word = "-" then around.input else word

/-- The line for a value; nothing makes an empty line. -/
def lineOf : Json → String
  | .null => ""
  | v => v.text

def statusLine (s : ProviderStatus) : String :=
  (if s.active then "* " else "  ") ++ Text.padEnd 10 s.kind.word ++ " " ++ Text.padEnd 15 s.title
    ++ " " ++ Text.padEnd 28 s.defaultModel ++ " "
    ++ (if s.configured then "configured" else "not configured")

def statusJson (s : ProviderStatus) : Json :=
  .obj [("type", .str s.kind.word), ("name", .str s.title), ("configured", .bool s.configured),
    ("active", .bool s.active), ("default_model", .str s.defaultModel)]

def showProviders (json : Bool) (statuses : List ProviderStatus) : Act (Session τ) Status := do
  if json then tell ((Json.arr (statuses.map statusJson)).writeIndented 0)
  else if statuses.isEmpty then tell "No providers registered."
  else statuses.forM fun s => tell (statusLine s)
  pure .done

/-- The provider of a family, or the active one. -/
def chosen? (kind : Option ProviderKind) (r : Registry (Provider τ)) :
    Except Fault (Option (Provider τ)) :=
  match kind with
  | some kind => (r.named kind.word).map some
  | none => .ok r.current?

def showModels (json : Bool) (names : List Json) : Act (Session τ) Status := do
  if json then tell ((Json.arr names).write Json.escapedSent)
  else names.forM fun name => relay (lineOf name)
  pure .done

def models (json : Bool) (kind : Option ProviderKind) (scope : ScopeId)
    (r : Registry (Provider τ)) : Act (Session τ) Status := do
  match ← Act.ofExcept (chosen? kind r) with
  | none => refuse "No active provider. Configure one in settings."
  | some p => showModels json (← onWorld (p.models scope))

def health (scope : ScopeId) (r : Registry (Provider τ)) : Act (Session τ) Status := do
  return if ← probeAll scope r.entries then .failed else .done

def usageJson (u : TokenUsage) : Json :=
  .obj [("prompt_tokens", u.prompt), ("completion_tokens", u.completion),
    ("total_tokens", u.total)]

def completionJson (r : CompletionResponse) : Json :=
  .obj [("content", r.content), ("model", r.model), ("finish_reason", r.finishReason),
    ("usage", (r.usage.map usageJson).getD .null)]

/-- A system message goes first, unless it is empty. -/
def chat (system prompt : String) : List Message :=
  (if system = "" then [] else [⟨.system, system⟩]) ++ [⟨.user, prompt⟩]

def complete (json : Bool) (request : CompletionRequest) (scope : ScopeId)
    (r : Registry (Provider τ)) : Act (Session τ) Status := do
  let response ← r.answer fun p => onWorld (p.complete scope request)
  let line := completionJson response
  if json && line.hasLongNumber then Act.fail .tooLongToWrite
  else
    if json then tell (line.writeIndented 0 Json.escapedSent) else relay (lineOf response.content)
    pure .done

/-- Work with a tagger that takes no jobs. It is stopped however the work ends. -/
def withTagger {α : Type} (config : TaggingConfig τ) (work : Room.Work τ Unit Unit α) :
    Act (Session τ) α := fun s =>
  let (outcome, room) := work (Tagging.enter { config with jobsEnabled := false } s.world ())
  let (_, room) := Tagging.stop room
  (outcome, { s with world := room.world })

def registryBackend (r : Registry (Provider τ)) : Tagging.Backend τ Unit Unit := fun scope q =>
  Room.onWorld (r.answer fun p => p.suggestTags scope q)

/-- The tags are suggested to nobody in particular, the user of number zero. -/
def tags (json : Bool) (limit : Int) (content : String) (existing : List String) (scope : ScopeId)
    (r : Registry (Provider τ)) : Act (Session τ) Status := do
  let response ← withTagger { TaggingConfig.usual with maxTags := limit }
    (Tagging.suggest (registryBackend r) scope 0 content existing)
  if json then tell ((Json.arr (response.tags.map .str)).write Json.escapedSent)
  else relay (" ".intercalate (response.tags.map ("#" ++ ·)))
  pure .done

def summaryJson (r : SummarizeResponse) : Json :=
  .obj [("summary", r.summary), ("key_points", .arr (r.keyPoints.map .str))]

def summarize (json : Bool) (request : SummarizeRequest) (scope : ScopeId)
    (r : Registry (Provider τ)) : Act (Session τ) Status := do
  let response ← r.answer fun p => onWorld (p.summarize scope request)
  if json then tell ((summaryJson response).writeIndented 0 Json.escapedSent)
  else relay (lineOf response.summary)
  pure .done

def mask (key : String) (kind : Option ProviderKind) : Act (Session τ) Status :=
  match kind.map fun kind => ApiKey.check (some kind) key with
  | some (.error f) => refuse f.message
  | _ => do
    tell (ApiKey.masked key ++ "  (id " ++ ApiKey.mark key ++ ")")
    pure .done

def sourceLine (path : FilePath) (found : Found) : String :=
  "# " ++ if found = .nothing then "(detected from environment)" else path.text

/-- The settings with all keys masked. -/
def showSetting (json : Bool) (path : FilePath) (found : Found) (s : Setting) : String :=
  if json then s.redact.toJson.writeIndented 0 ++ "\n"
  else sourceLine path found ++ "\n" ++ s.redact.document

def showConfig (json : Bool) (around : Surroundings) (config : Option String) :
    Act (Session τ) Status :=
  withSetting around.env around.files config fun path found setting => do
    Act.modify fun s => { s with out := s.out ++ showSetting json path found setting }
    pure .done

def perform (around : Surroundings) (i : Invocation) : Act (Session τ) Status :=
  match i.command with
  | .providers => withProviders around i.config fun _ r => showProviders i.json r.statuses
  | .models kind => withProviders around i.config (models i.json kind)
  | .health => withProviders around i.config health
  | .complete prompt system model maxTokens =>
    withProviders around i.config (complete i.json
      { messages := chat system (contentOf around prompt), model, maxTokens := .int maxTokens })
  | .tags content existing limit =>
    withProviders around i.config (tags i.json limit (contentOf around content) existing)
  | .summarize content style length =>
    withProviders around i.config (summarize i.json
      { content := contentOf around content, style, maxLength := length })
  | .mask key kind => mask key kind
  | .showConfig => showConfig i.json around i.config

/-- Run a command in a world. -/
def run (around : Surroundings) (i : Invocation) (world : World τ) : Report × World τ :=
  let (outcome, s) := perform around i { world }
  (s.conclude around.env i.json outcome, s.world)

end MemoAssist.Cli

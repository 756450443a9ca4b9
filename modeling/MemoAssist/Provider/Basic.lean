import MemoAssist.Json.Decoding
import MemoAssist.Json.Loose
import MemoAssist.Provider.Config
import MemoAssist.Provider.Request
import MemoAssist.Wire.Transport

namespace MemoAssist

variable {τ : Type} [TimeScale τ]

structure Provider (τ : Type) where
  kind : ProviderKind
  /-- The credential; Ollama has none. -/
  apiKey : String
  /-- Where requests go, without a slash at the end. -/
  address : String
  defaultModel : String
  /-- The model for embeddings; Anthropic has none. -/
  embeddingModel : String
  transport : Transport τ

namespace Provider

open ProviderConfig

def withoutSlashes (url : String) : String :=
  String.ofList (Text.dropEndWhile (· = '/') url.toList)

/-- Empty fields of the set-up take the defaults of the family. -/
def create (config : ProviderConfig τ) : Provider τ :=
  let transport :=
    Transport.configure config.timeout config.maxRetries Transport.usualPause
  match config.kind with
  | .openai =>
    { kind := .openai, apiKey := config.apiKey, transport
      address := withoutSlashes (orDefault config.baseUrl openaiUrl)
      defaultModel := orDefault config.defaultModel openaiModel
      embeddingModel := orDefault config.embeddingModel openaiEmbedding }
  | .anthropic =>
    { kind := .anthropic, apiKey := config.apiKey, transport
      address := withoutSlashes (orDefault config.baseUrl anthropicUrl)
      defaultModel := orDefault config.defaultModel anthropicModel
      embeddingModel := "" }
  | .gemini =>
    { kind := .gemini, apiKey := config.apiKey, transport
      address := withoutSlashes (orDefault config.baseUrl geminiUrl)
      defaultModel := orDefault config.defaultModel geminiModel
      embeddingModel := orDefault config.embeddingModel geminiEmbedding }
  | .ollama =>
    { kind := .ollama, apiKey := "", transport
      address := withoutSlashes (orDefault config.host ollamaHost)
      defaultModel := orDefault config.defaultModel ollamaModel
      embeddingModel := orDefault config.embeddingModel ollamaEmbedding }

@[simp] theorem kind_create (config : ProviderConfig τ) : (create config).kind = config.kind := by
  unfold create
  split <;> symm <;> assumption

/-- Only Ollama has no use for a credential. -/
theorem apiKey_create {config : ProviderConfig τ} (remote : config.kind ≠ .ollama) :
    (create config).apiKey = config.apiKey := by
  unfold create
  split <;> first | rfl | contradiction

/-- Refuses a word that names no family. -/
def unknownFamily (word : String) : Fault :=
  ⟨.badValue, "Unknown provider: '" ++ word ++ "'. Available providers: " ++
    ", ".intercalate (ProviderKind.all.map ProviderKind.word) ++ "."⟩

def familyNamed (word : String) : Except Fault ProviderKind :=
  match ProviderKind.ofWord? word with
  | some kind => .ok kind
  | none => .error (unknownFamily word)

/-- Is there a credential, or for Ollama an address? Nothing is sent to find out. -/
def isConfigured (p : Provider τ) : Bool :=
  match p.kind with
  | .ollama => p.address ≠ ""
  | _ => p.apiKey ≠ ""

def requireConfigured (p : Provider τ) : Except Fault Unit :=
  if p.isConfigured then .ok () else .error (.of .notConfigured)

/-- The object a successful reply must hold. That a reply is too deep is not reported as one that
cannot be read. -/
def readObject (body : Text.Bytes) (what : String) : Except Fault (List (String × Json)) :=
  match Json.readBytes? body with
  | some (.obj fields) => .ok fields
  | some _ =>
    .error ⟨.unreadableReply, "failed to parse " ++ what ++ " response: expected object"⟩
  | none =>
    if Json.areTooDeep body then .error (.of .tooDeep)
    else .error ⟨.unreadableReply, "failed to parse " ++ what ++ " response: " ++ Fault.unspoken⟩

/-- A field of a reply, or what stands for a missing one. -/
def fieldOf (fields : List (String × Json)) (key : String) (missing : Json) : Json :=
  (Json.find? key fields).getD missing

/-- A field of a reply if it counts as a value, and otherwise `other`. -/
def fieldOr (fields : List (String × Json)) (key : String) (other : Json) : Json :=
  (fieldOf fields key .null).orElse other

/-- A number goes into a request only when it is positive. -/
def whenPositive (name : String) (n : Number) : List (String × Json) :=
  if n.isPositive then [(name, .num n)] else []

/-- Send a request of the provider's and read its reply. -/
def exchange {α : Type} (p : Provider τ) (scope : ScopeId) (ask : Ask)
    (read : Text.Bytes → Except Fault α) : Act (World τ) α := do
  let body ← p.transport.request scope ask
  Act.ofExcept (read body)

end Provider

end MemoAssist

import MemoAssist.Provider.OpenAI

namespace MemoAssist.Ollama

variable {τ : Type} [TimeScale τ]

def options (r : CompletionRequest) : List (String × Json) :=
  Provider.whenPositive "temperature" r.temperature
    ++ Provider.whenPositive "top_p" r.topP
    ++ Provider.whenPositive "num_predict" r.maxTokens

def completionAsk (p : Provider τ) (r : CompletionRequest) : Ask :=
  let options := options r
  { method := "POST"
    url := p.address ++ "/api/chat"
    payload := some (.value (.obj
      ([("model", .str (ProviderConfig.orDefault r.model p.defaultModel)),
        ("messages", .arr (r.messages.map OpenAI.messageFields)),
        ("stream", .bool false)]
        ++ (if options.isEmpty then [] else [("options", .obj options)])))) }

def readCompletion (body : Text.Bytes) : Except Fault CompletionResponse := do
  let fields ← Provider.readObject body "completion"
  let prompt := Provider.fieldOf fields "prompt_eval_count" (.int 0)
  let completion := Provider.fieldOf fields "eval_count" (.int 0)
  let content ← (Provider.fieldOr fields "message" (.obj [])).field "content" (.str "")
  let total ← prompt.add completion
  return { content
           model := Provider.fieldOf fields "model" (.str "")
           usage := some { prompt, completion, total }
           finishReason := Provider.fieldOr fields "done_reason" (.str "") }

def embeddingAsk (p : Provider τ) (model text : String) : Ask :=
  { method := "POST"
    url := p.address ++ "/api/embed"
    payload := some (.value (.obj [("model", .str model), ("input", .str text)])) }

/-- The first vector of a reply, and the tokens it reports. -/
def readEmbedding (body : Text.Bytes) : Except Fault (Json × Json) := do
  let fields ← Provider.readObject body "embedding"
  let vectors := Provider.fieldOr fields "embeddings" (.arr [])
  let vector ← if vectors.isSet then vectors.front else .ok (.arr [])
  return (vector, Provider.fieldOf fields "prompt_eval_count" (.int 0))

/-- One request for each text, in order; the tokens add up. -/
def embedAll (p : Provider τ) (scope : ScopeId) (model : String) (tokens : Json) :
    List String → Act (World τ) (List Json × Json)
  | [] => pure ([], tokens)
  | text :: rest => do
    let (vector, count) ← p.exchange scope (embeddingAsk p model text) readEmbedding
    let tokens ← Act.ofExcept (tokens.add count)
    let (vectors, tokens) ← embedAll p scope model tokens rest
    pure (vector :: vectors, tokens)

def embed (p : Provider τ) (scope : ScopeId) (r : EmbeddingRequest) :
    Act (World τ) EmbeddingResponse := do
  let model := ProviderConfig.orDefault r.model p.embeddingModel
  let (embeddings, tokens) ← embedAll p scope model (.int 0) r.input
  pure { embeddings, model := .str model, usage := some { prompt := tokens, total := tokens } }

def modelsAsk (p : Provider τ) : Ask := { method := "GET", url := p.address ++ "/api/tags" }

def readModels (body : Text.Bytes) : Except Fault (List Json) := do
  let fields ← Provider.readObject body "models"
  let entries ← (Provider.fieldOr fields "models" (.arr [])).parts
  entries.mapM fun entry => entry.field "name" (.str "")

/-- Lists and objects cannot be members of a set. -/
def memberText? : Json → Except Fault (Option String)
  | .str s => .ok (some s)
  | .arr _ | .obj _ => .error (.of .illTyped)
  | _ => .ok none

/-- The names under which a model may be installed: as asked, and without its tag, each alone and
as the latest. -/
def installedAs (model : String) : List String :=
  let bare := String.ofList (model.toList.takeWhile (· ≠ ':'))
  [model, model ++ ":latest", bare, bare ++ ":latest"]

def lists (model : String) (names : List Json) : Except Fault Bool := do
  let installed := (← names.mapM memberText?).filterMap id
  return (installedAs model).any installed.contains

def versionAsk (p : Provider τ) : Ask :=
  { method := "GET", url := p.address ++ "/api/version" }

def readVersion (body : Text.Bytes) : Except Fault Json := do
  return Provider.fieldOf (← Provider.readObject body "version") "version" (.str "")

end MemoAssist.Ollama

import MemoAssist.Provider.Anthropic
import MemoAssist.Provider.ByCompletion
import MemoAssist.Provider.Gemini
import MemoAssist.Provider.Ollama

namespace MemoAssist.Provider

variable {τ : Type} [TimeScale τ]

/-- The work, unless the provider is not configured. -/
def whenConfigured {α : Type} (p : Provider τ) (work : Act (World τ) α) : Act (World τ) α := do
  Act.ofExcept p.requireConfigured
  work

def complete (p : Provider τ) (scope : ScopeId) (r : CompletionRequest) :
    Act (World τ) CompletionResponse :=
  p.whenConfigured <|
    match p.kind with
    | .openai => p.exchange scope (OpenAI.completionAsk p r) OpenAI.readCompletion
    | .anthropic => p.exchange scope (Anthropic.completionAsk p r) Anthropic.readCompletion
    | .gemini =>
      p.exchange scope (Gemini.completionAsk p r) (Gemini.readCompletion (Gemini.modelOf p r))
    | .ollama => p.exchange scope (Ollama.completionAsk p r) Ollama.readCompletion

/-- Anthropic has no embeddings, configured or not. -/
def embed (p : Provider τ) (scope : ScopeId) (r : EmbeddingRequest) :
    Act (World τ) EmbeddingResponse :=
  match p.kind with
  | .openai =>
    p.whenConfigured (p.exchange scope (OpenAI.embeddingAsk p r) OpenAI.readEmbeddings)
  | .anthropic => Act.fail ⟨.unsupported, "anthropic does not support embeddings"⟩
  | .gemini =>
    p.whenConfigured (p.exchange scope (Gemini.embeddingAsk p r)
      (Gemini.readEmbeddings (Gemini.embeddingModelPath p r)))
  | .ollama => p.whenConfigured (Ollama.embed p scope r)

def suggestTags (p : Provider τ) (scope : ScopeId) (r : SuggestTagsRequest) :
    Act (World τ) SuggestTagsResponse :=
  r.answerBy (p.complete scope)

def summarize (p : Provider τ) (scope : ScopeId) (r : SummarizeRequest) :
    Act (World τ) SummarizeResponse :=
  r.answerBy (p.complete scope)

def models (p : Provider τ) (scope : ScopeId) : Act (World τ) (List Json) :=
  p.whenConfigured <|
    match p.kind with
    | .openai => p.exchange scope (OpenAI.modelsAsk p) OpenAI.readModels
    | .anthropic => pure (Anthropic.knownModels.map .str)
    | .gemini => p.exchange scope (Gemini.modelsAsk p) Gemini.readModels
    | .ollama => p.exchange scope (Ollama.modelsAsk p) Ollama.readModels

/-- Is a model installed on an Ollama server? -/
def hasModel (p : Provider τ) (scope : ScopeId) (model : String) : Act (World τ) Bool := do
  let names ← p.models scope
  Act.ofExcept (Ollama.lists model names)

/-- The version an Ollama server reports. -/
def version (p : Provider τ) (scope : ScopeId) : Act (World τ) Json :=
  p.whenConfigured (p.exchange scope (Ollama.versionAsk p) Ollama.readVersion)

end MemoAssist.Provider

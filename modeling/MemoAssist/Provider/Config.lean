import MemoAssist.Clock.Scale
import MemoAssist.Provider.Kind

namespace MemoAssist

/-- How one provider is set up. An empty text stands for the usual one of its family. -/
structure ProviderConfig (τ : Type) where
  kind : ProviderKind
  apiKey : String := ""
  baseUrl : String := ""
  defaultModel : String := ""
  embeddingModel : String := ""
  host : String := ""
  /-- Seconds for one attempt; none at all stands for the usual time. -/
  timeout : τ
  /-- Attempts after the first; zero stands for the usual number. -/
  maxRetries : Int := 3

namespace ProviderConfig

def usualTimeout : Int := 30

def usualRetries : Int := 3

/-- A text, or what stands in its place when it is empty. -/
def orDefault (s other : String) : String := if s = "" then other else s

def openaiUrl : String := "https://api.openai.com/v1"

def openaiModel : String := "gpt-4o-mini"

def openaiEmbedding : String := "text-embedding-3-small"

def anthropicUrl : String := "https://api.anthropic.com"

def anthropicModel : String := "claude-3-haiku-20240307"

def geminiUrl : String := "https://generativelanguage.googleapis.com/v1beta"

def geminiModel : String := "gemini-1.5-flash"

def geminiEmbedding : String := "text-embedding-004"

def ollamaHost : String := "http://localhost:11434"

def ollamaModel : String := "llama3.2"

def ollamaEmbedding : String := "nomic-embed-text"

/-- A family's set-up with its defaults filled in. -/
def usual {τ : Type} [TimeScale τ] : ProviderKind → ProviderConfig τ
  | .openai =>
    { kind := .openai, baseUrl := openaiUrl, defaultModel := openaiModel
      embeddingModel := openaiEmbedding, timeout := TimeScale.ofInt usualTimeout }
  | .anthropic =>
    { kind := .anthropic, baseUrl := anthropicUrl, defaultModel := anthropicModel
      timeout := TimeScale.ofInt usualTimeout }
  | .gemini =>
    { kind := .gemini, baseUrl := geminiUrl, defaultModel := geminiModel
      embeddingModel := geminiEmbedding, timeout := TimeScale.ofInt usualTimeout }
  | .ollama =>
    { kind := .ollama, host := ollamaHost, defaultModel := ollamaModel
      embeddingModel := ollamaEmbedding, timeout := TimeScale.ofInt usualTimeout }

end ProviderConfig

end MemoAssist

import MemoAssist.Provider.Basic
import MemoAssist.Record.Basic
import MemoAssist.Registry.Basic
import MemoAssist.Setting.Basic

namespace MemoAssist

open Record

namespace ProviderSetting

def json (s : ProviderSetting) : Json :=
  .obj [("api_key", .str s.apiKey), ("base_url", .str s.baseUrl),
    ("default_model", .str s.defaultModel), ("embedding_model", .str s.embeddingModel),
    ("host", .str s.host)]

def ofJson (record : Json) : ProviderSetting :=
  { apiKey := text record "api_key", baseUrl := text record "base_url"
    defaultModel := text record "default_model", embeddingModel := text record "embedding_model"
    host := text record "host" }

end ProviderSetting

def ProviderKind.json (kind : ProviderKind) : Json := .str kind.word

namespace Setting

/-- All fields, whether they are set or not. -/
def json (s : Setting) : Json :=
  .obj ([("provider", ofOption ProviderKind.json s.provider)]
    ++ ProviderKind.all.map (fun kind => (kind.word, ofOption ProviderSetting.json (s.setup? kind)))
    ++ [("enable_auto_tagging", .bool s.autoTagging), ("enable_auto_summary", .bool s.autoSummary),
        ("enable_semantic_search", .bool s.semanticSearch)])

def ofJson (record : Json) : Except Fault Setting := do
  let provider ← match get record "provider" with
    | .null => .ok none
    | v => (ProviderKind.ofWord (textOr "" v)).map some
  let plain : Setting :=
    { provider
      autoTagging := flag record "enable_auto_tagging"
      autoSummary := flag record "enable_auto_summary"
      semanticSearch := flag record "enable_semantic_search" }
  return plain.withSetups fun kind =>
    match get record kind.word with
    | .null => none
    | v => some (ProviderSetting.ofJson v)

end Setting

namespace ProviderConfig

variable {τ : Type} [TimeScale τ]

/-- A set-up as given: what is missing is empty, and only time and retries have usual values. -/
def ofJson (seconds? : Json → Option τ) (record : Json) : Except Fault (ProviderConfig τ) := do
  let kind ← Provider.familyNamed (text record "type")
  return { kind, apiKey := text record "api_key", baseUrl := text record "base_url"
           defaultModel := text record "default_model"
           embeddingModel := text record "embedding_model", host := text record "ollama_host"
           timeout := (seconds? (get record "timeout")).getD (TimeScale.ofInt usualTimeout)
           maxRetries := integerOr usualRetries (get record "max_retries") }

def json (c : ProviderConfig τ) (seconds : τ → Json) : Json :=
  .obj [("type", c.kind.json), ("api_key", .str c.apiKey), ("base_url", .str c.baseUrl),
    ("default_model", .str c.defaultModel), ("embedding_model", .str c.embeddingModel),
    ("ollama_host", .str c.host), ("timeout", seconds c.timeout),
    ("max_retries", .int c.maxRetries)]

end ProviderConfig

def ProviderStatus.json (s : ProviderStatus) : Json :=
  .obj [("type", s.kind.json), ("name", .str s.title), ("configured", .bool s.configured),
    ("active", .bool s.active), ("default_model", .str s.defaultModel)]

end MemoAssist

import MemoAssist.Provider.Basic
import MemoAssist.Registry.Fallback
import MemoAssist.Setting.Basic

namespace MemoAssist

variable {τ : Type} [TimeScale τ]

namespace ProviderSetting

/-- The family's usual set-up, overlaid with the fields that are not empty. -/
def config (setup : ProviderSetting) (kind : ProviderKind) : ProviderConfig τ :=
  let usual : ProviderConfig τ := ProviderConfig.usual kind
  { usual with
    apiKey := ProviderConfig.orDefault setup.apiKey usual.apiKey
    baseUrl := ProviderConfig.orDefault setup.baseUrl usual.baseUrl
    defaultModel := ProviderConfig.orDefault setup.defaultModel usual.defaultModel
    embeddingModel := ProviderConfig.orDefault setup.embeddingModel usual.embeddingModel
    host := ProviderConfig.orDefault setup.host usual.host }

end ProviderSetting

namespace Provider

/-- The set-up that a provider was made from, as far as it uses it. -/
def setup (p : Provider τ) : ProviderSetting :=
  match p.kind with
  | .openai | .gemini =>
    { apiKey := p.apiKey, baseUrl := p.address, defaultModel := p.defaultModel
      embeddingModel := p.embeddingModel }
  | .anthropic => { apiKey := p.apiKey, baseUrl := p.address, defaultModel := p.defaultModel }
  | .ollama =>
    { host := p.address, defaultModel := p.defaultModel, embeddingModel := p.embeddingModel }

instance : Registrable (Provider τ) where
  kind := Provider.kind
  title p := p.kind.title
  isConfigured := Provider.isConfigured
  defaultModel := Provider.defaultModel

end Provider

namespace Setting

/-- A provider for every family that is set up. -/
def providers (s : Setting) : List (Provider τ) :=
  ProviderKind.all.filterMap fun kind =>
    (s.setup? kind).map fun setup => Provider.create (setup.config kind)

end Setting

namespace Registry

variable {P : Type} [Registrable P]

def registerAll (providers : List P) (r : Registry P) : List (Event τ) × Registry P :=
  providers.foldl (fun (events, r) p => (events ++ r.registering p, r.register p)) ([], r)

/-- Activate the preferred family or fall back. That no provider is usable is reported and is no
failure. -/
def prefer (wish : Option ProviderKind) (r : Registry P) : List (Event τ) × Registry P :=
  match wish with
  | none => ([], r)
  | some kind =>
    match r.activateOrFallback kind.word with
    | .ok chosen => (r.activating kind.word, chosen)
    | .error f => (r.activating kind.word ++ [.noFallback f.message], r)

/-- Register a provider for every family that is set up, and then activate the preferred one. -/
def load (make : Provider τ → P) (s : Setting) (r : Registry P) : List (Event τ) × Registry P :=
  let (registered, r) := r.registerAll (s.providers.map make)
  let (activated, r) := r.prefer s.provider
  (registered ++ activated, r)

/-- The settings that would register the same providers again. -/
def snapshot (setup? : P → Option ProviderSetting) (r : Registry P) : Setting :=
  let plain : Setting := { provider := r.active.filter fun kind => (r.find? kind).isSome }
  plain.withSetups fun kind => (r.find? kind).bind setup?

end Registry

end MemoAssist

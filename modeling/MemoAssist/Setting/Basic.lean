import MemoAssist.Provider.Kind

namespace MemoAssist

/-- How one family is set up. An empty text stands for the family's default. -/
structure ProviderSetting where
  apiKey : String := ""
  baseUrl : String := ""
  defaultModel : String := ""
  embeddingModel : String := ""
  host : String := ""
deriving DecidableEq, Repr

/-- A family without a set-up is not used at all; an empty set-up uses the defaults. -/
structure Setting where
  provider : Option ProviderKind := none
  openai : Option ProviderSetting := none
  anthropic : Option ProviderSetting := none
  gemini : Option ProviderSetting := none
  ollama : Option ProviderSetting := none
  autoTagging : Bool := false
  autoSummary : Bool := false
  semanticSearch : Bool := false
deriving DecidableEq, Repr

namespace Setting

def setup? (s : Setting) : ProviderKind → Option ProviderSetting
  | .openai => s.openai
  | .anthropic => s.anthropic
  | .gemini => s.gemini
  | .ollama => s.ollama

/-- The same preferences with other set-ups. -/
def withSetups (s : Setting) (setup? : ProviderKind → Option ProviderSetting) : Setting :=
  { s with
    openai := setup? .openai
    anthropic := setup? .anthropic
    gemini := setup? .gemini
    ollama := setup? .ollama }

/-- Stands for an API key that is not shown. -/
def mask : String := "***masked***"

def redactKey (setup : ProviderSetting) : ProviderSetting :=
  if setup.apiKey = "" then setup else { setup with apiKey := mask }

/-- Every API key that is there gives way to the mask. -/
def redact (s : Setting) : Setting := s.withSetups fun kind => (s.setup? kind).map redactKey

/-- A form that shows masked keys sends back the mask or nothing for a key that was not touched. -/
def isUntouched (key : String) : Bool := key = "" || key = mask

def keepKey (incoming : ProviderSetting) (stored : Option ProviderSetting) : ProviderSetting :=
  match stored with
  | some stored =>
    if isUntouched incoming.apiKey then { incoming with apiKey := stored.apiKey } else incoming
  | none => incoming

/-- Put the stored keys in the place of those that were not touched. -/
def preserveKeys (incoming : Setting) (stored : Option Setting) : Setting :=
  match stored with
  | none => incoming
  | some stored =>
    incoming.withSetups fun kind => (incoming.setup? kind).map (keepKey · (stored.setup? kind))

end Setting

end MemoAssist

import MemoAssist.Fault
import MemoAssist.Json.Display
import MemoAssist.Json.Loose
import MemoAssist.Setting.Basic

/-! Settings as a table of named values. Reading takes a table of any values and makes texts and
truth values of them; writing yields texts, flags and tables of texts only. -/
namespace MemoAssist

/-- What a table may hold, as far as settings look at it. -/
class Cell (α : Type) where
  /-- Does it count as a value? -/
  isSet : α → Bool
  /-- Fails for a number that is too long to be written. -/
  text : α → Except Fault String
  /-- The text shown for it in a message. -/
  shown : α → Except Fault String
  word? : α → Option String
  fields? : α → Option (List (String × α))

instance : Cell Json where
  isSet := Json.isSet
  text v := .ok v.text
  shown v := .ok v.shown
  word? := fun | .str s => some s | _ => none
  fields? := fun | .obj fields => some fields | _ => none

/-- What a written table holds. -/
inductive Entry where
  | word (s : String)
  | flag (b : Bool)
  | fields (all : List (String × String))
deriving DecidableEq, Repr

namespace Entry

def json : Entry → Json
  | .word s => .str s
  | .flag b => .bool b
  | .fields all => .obj (all.map fun f => (f.1, .str f.2))

instance : Cell Entry where
  isSet := fun e => Json.isSet e.json
  text := fun e => .ok e.json.text
  shown := fun e => .ok e.json.shown
  word? := fun | .word s => some s | _ => none
  fields? := fun | .fields all => some (all.map fun f => (f.1, .word f.2)) | _ => none

end Entry

namespace Setting

variable {α : Type} [Cell α]

/-- The value under a name. -/
def lookUp (name : String) (table : List (String × α)) : Option α :=
  (table.find? fun entry => entry.1 = name).map Prod.snd

def unknownProvider (shown : String) : Fault :=
  ⟨.badValue, "Unknown provider in settings: " ++ shown⟩

/-- What does not count as a value names no provider; anything else has to be a known name. -/
def providerOf (table : List (String × α)) : Except Fault (Option ProviderKind) :=
  match lookUp "provider" table with
  | none => .ok none
  | some v =>
    if Cell.isSet v then
      match (Cell.word? v).bind ProviderKind.ofWord? with
      | some kind => .ok (some kind)
      | none => do throw (unknownProvider (← Cell.shown v))
    else .ok none

/-- A missing field is empty, and any other becomes a text. -/
def fieldText (fields : List (String × α)) (name : String) : Except Fault String :=
  match lookUp name fields with
  | some v => Cell.text v
  | none => .ok ""

def setupOf (fields : List (String × α)) : Except Fault ProviderSetting := do
  return { apiKey := ← fieldText fields "api_key"
           baseUrl := ← fieldText fields "base_url"
           defaultModel := ← fieldText fields "default_model"
           embeddingModel := ← fieldText fields "embedding_model"
           host := ← fieldText fields "host" }

/-- Only a table sets a family up. -/
def setupIn (table : List (String × α)) (kind : ProviderKind) :
    Except Fault (Option ProviderSetting) :=
  match (lookUp kind.word table).bind Cell.fields? with
  | some fields => (setupOf fields).map some
  | none => .ok none

def flagIn (table : List (String × α)) (name : String) : Bool :=
  (lookUp name table).any Cell.isSet

def ofTable (table : List (String × α)) : Except Fault Setting := do
  return { provider := ← providerOf table
           openai := ← setupIn table .openai
           anthropic := ← setupIn table .anthropic
           gemini := ← setupIn table .gemini
           ollama := ← setupIn table .ollama
           autoTagging := flagIn table "enable_auto_tagging"
           autoSummary := flagIn table "enable_auto_summary"
           semanticSearch := flagIn table "enable_semantic_search" }

/-- The fields that are not empty. -/
def setupFields (setup : ProviderSetting) : List (String × String) :=
  [("api_key", setup.apiKey), ("base_url", setup.baseUrl), ("default_model", setup.defaultModel),
   ("embedding_model", setup.embeddingModel), ("host", setup.host)].filter fun f => f.2 ≠ ""

def setupEntry (s : Setting) (kind : ProviderKind) : Option (String × Entry) :=
  (s.setup? kind).map fun setup => (kind.word, .fields (setupFields setup))

/-- The preference if there is one, the three flags, and the families that are set up. -/
def toTable (s : Setting) : List (String × Entry) :=
  (s.provider.map fun kind => ("provider", Entry.word kind.word)).toList
    ++ [("enable_auto_tagging", .flag s.autoTagging),
        ("enable_auto_summary", .flag s.autoSummary),
        ("enable_semantic_search", .flag s.semanticSearch)]
    ++ ProviderKind.all.filterMap s.setupEntry

/-- The table as a JSON object. -/
def toJson (s : Setting) : Json := .obj (s.toTable.map fun e => (e.1, e.2.json))

end Setting

end MemoAssist

import MemoAssist.Fault
import MemoAssist.Json.Basic

namespace MemoAssist

inductive Role where
  | system
  | user
  | assistant
deriving DecidableEq, Repr

namespace Role

def all : List Role := [.system, .user, .assistant]

def word : Role → String
  | .system => "system"
  | .user => "user"
  | .assistant => "assistant"

def ofWord (word : String) : Except Fault Role :=
  match all.find? fun role => role.word = word with
  | some role => .ok role
  | none => .error (.of .unknownName)

end Role

structure Message where
  role : Role
  content : String

/-- A chat. Numbers that are not positive are left to the backend. -/
structure CompletionRequest where
  messages : List Message
  model : String := ""
  maxTokens : Number := .int 0
  temperature : Number := .float 0.0
  topP : Number := .float 0.0
  stream : Bool := false

structure TokenUsage where
  prompt : Json := .int 0
  completion : Json := .int 0
  total : Json := .int 0

structure CompletionResponse where
  content : Json
  model : Json := .str ""
  usage : Option TokenUsage := none
  finishReason : Json := .str ""

structure EmbeddingRequest where
  input : List String
  model : String := ""
  dimensions : Number := .int 0

structure EmbeddingResponse where
  embeddings : List Json
  model : Json := .str ""
  usage : Option TokenUsage := none

structure SuggestTagsRequest where
  content : String
  existingTags : List String := []
  /-- Zero stands for the usual number. -/
  maxTags : Int := 0
  language : String := ""
deriving DecidableEq

structure SuggestTagsResponse where
  tags : List String
  confidence : List Json := []

structure SummarizeRequest where
  content : String
  maxLength : Int := 0
  style : String := ""

structure SummarizeResponse where
  summary : Json
  keyPoints : List String := []

end MemoAssist

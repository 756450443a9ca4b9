import MemoAssist.Json.Sorting.Runs
import MemoAssist.Provider.Basic

namespace MemoAssist.OpenAI

variable {τ : Type} [TimeScale τ]

def chatFamilies : List String := ["gpt-4", "gpt-3.5", "o1", "chatgpt"]

/-- Marks of models that do something other than chat. -/
def otherUses : List String :=
  ["audio", "realtime", "tts", "transcribe", "image", "embedding"]

def isChatModel (model : String) : Bool :=
  chatFamilies.any (fun family => family.toList.isPrefixOf model.toList) &&
    !otherUses.any (fun mark => Text.holds mark.toList model.toList)

def authorization (p : Provider τ) : Headers := [("Authorization", "Bearer " ++ p.apiKey)]

def messageFields (m : Message) : Json :=
  .obj [("role", .str m.role.word), ("content", .str m.content)]

def completionAsk (p : Provider τ) (r : CompletionRequest) : Ask :=
  { method := "POST"
    url := p.address ++ "/chat/completions"
    payload := some (.value (.obj
      ([("model", .str (ProviderConfig.orDefault r.model p.defaultModel)),
        ("messages", .arr (r.messages.map messageFields))]
        ++ Provider.whenPositive "max_tokens" r.maxTokens
        ++ Provider.whenPositive "temperature" r.temperature
        ++ Provider.whenPositive "top_p" r.topP)))
    headers := authorization p }

def readUsage (reported : Json) : Except Fault TokenUsage := do
  let usage := reported.orElse (.obj [])
  return { prompt := ← usage.field "prompt_tokens" (.int 0)
           completion := ← usage.field "completion_tokens" (.int 0)
           total := ← usage.field "total_tokens" (.int 0) }

def readCompletion (body : Text.Bytes) : Except Fault CompletionResponse := do
  let fields ← Provider.readObject body "completion"
  let choices := Provider.fieldOr fields "choices" (.arr [])
  if choices.isSet then
    let choice ← choices.front
    let message := (← choice.field "message" .null).orElse (.obj [])
    let content := (← message.field "content" .null).orElse (.str "")
    let usage ← readUsage (Provider.fieldOf fields "usage" .null)
    let reason := (← choice.field "finish_reason" .null).orElse (.str "")
    return { content, model := Provider.fieldOf fields "model" (.str ""), usage := some usage
             finishReason := reason }
  else .error ⟨.unreadableReply, "no completion choices returned"⟩

def embeddingAsk (p : Provider τ) (r : EmbeddingRequest) : Ask :=
  { method := "POST"
    url := p.address ++ "/embeddings"
    payload := some (.value (.obj
      ([("model", .str (ProviderConfig.orDefault r.model p.embeddingModel)),
        ("input", .arr (r.input.map .str))]
        ++ Provider.whenPositive "dimensions" r.dimensions)))
    headers := authorization p }

/-- Each item with the index it reports. -/
def indexed (items : List Json) : Except Fault (List (Json × Json)) :=
  items.mapM fun item => do return (← item.field "index" (.int 0), item)

/-- Items in the order of their indices. Every stable sort gives the same one, unless there is a NaN
among the indices: then it is the one that merging runs ends in. -/
def inOrder (items : List (Json × Json)) : Except Fault (List (Json × Json)) :=
  let less (a b : Json × Json) := Json.less a.1 b.1
  if items.any fun item => item.1.hasUnordered then Sorting.byRuns less items
  else Sorting.sort less items

/-- Items may come in any order; their indices decide. -/
def readEmbeddings (body : Text.Bytes) : Except Fault EmbeddingResponse := do
  let fields ← Provider.readObject body "embedding"
  let items ← (Provider.fieldOr fields "data" (.arr [])).parts
  let sorted ← inOrder (← indexed items)
  let embeddings ← sorted.mapM fun (_, item) => do
    return (← item.field "embedding" .null).orElse (.arr [])
  let usage ← readUsage (Provider.fieldOf fields "usage" .null)
  return { embeddings, model := Provider.fieldOf fields "model" (.str ""), usage := some usage }

def modelsAsk (p : Provider τ) : Ask :=
  { method := "GET", url := p.address ++ "/models", headers := authorization p }

/-- The identifier of an entry that is a chat model. -/
def chatModel? : Json → Except Fault (Option Json)
  | .obj entry => do
    let id ← (Provider.fieldOf entry "id" (.str "")).asString
    return if isChatModel id then some (.str id) else none
  | _ => .ok none

def readModels (body : Text.Bytes) : Except Fault (List Json) := do
  let fields ← Provider.readObject body "models"
  let entries ← (Provider.fieldOr fields "data" (.arr [])).parts
  return (← entries.mapM chatModel?).filterMap id

end MemoAssist.OpenAI

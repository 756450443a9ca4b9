import MemoAssist.Provider.Basic

namespace MemoAssist.Gemini

variable {τ : Type} [TimeScale τ]

def modelsFolder : String := "models/"

def modelPath (model : String) : String :=
  if modelsFolder.toList.isPrefixOf model.toList then model else modelsFolder ++ model

def modelName (path : String) : String :=
  String.ofList (Text.withoutStart modelsFolder.toList path.toList)

def headers (p : Provider τ) : Headers := [("x-goog-api-key", p.apiKey)]

def textPart (text : String) : Json := .obj [("text", .str text)]

def roleWord : Role → String
  | .assistant => "model"
  | _ => "user"

def contentOf (m : Message) : Json :=
  .obj [("role", .str (roleWord m.role)), ("parts", .arr [textPart m.content])]

def instructionParts (messages : List Message) : List Json :=
  (messages.filter fun m => m.role = .system).map fun m => textPart m.content

def generationFields (r : CompletionRequest) : List (String × Json) :=
  Provider.whenPositive "maxOutputTokens" r.maxTokens
    ++ Provider.whenPositive "temperature" r.temperature
    ++ Provider.whenPositive "topP" r.topP

def modelOf (p : Provider τ) (r : CompletionRequest) : String :=
  ProviderConfig.orDefault r.model p.defaultModel

def completionAsk (p : Provider τ) (r : CompletionRequest) : Ask :=
  let contents := (r.messages.filter fun m => m.role ≠ .system).map contentOf
  let system := instructionParts r.messages
  let generation := generationFields r
  { method := "POST"
    url := p.address ++ "/" ++ modelPath (modelOf p r) ++ ":generateContent"
    payload := some (.value (.obj
      ([("contents", .arr contents)]
        ++ (if system.isEmpty then []
            else [("systemInstruction", .obj [("parts", .arr system)])])
        ++ (if generation.isEmpty then [] else [("generationConfig", .obj generation)]))))
    headers := headers p }

def partText? : Json → Option Json
  | .obj part => some (Provider.fieldOf part "text" (.str ""))
  | _ => none

def readCompletion (model : String) (body : Text.Bytes) : Except Fault CompletionResponse := do
  let fields ← Provider.readObject body "completion"
  let candidates := Provider.fieldOr fields "candidates" (.arr [])
  if candidates.isSet then
    let candidate ← candidates.front
    let content := (← candidate.field "content" .null).orElse (.obj [])
    let parts := (← content.field "parts" .null).orElse (.arr [])
    let usage := Provider.fieldOr fields "usageMetadata" (.obj [])
    let text ← Json.joined ((← parts.parts).filterMap partText?)
    let prompt ← usage.field "promptTokenCount" (.int 0)
    let completion ← usage.field "candidatesTokenCount" (.int 0)
    let total ← usage.field "totalTokenCount" (.int 0)
    let reason := (← candidate.field "finishReason" .null).orElse (.str "")
    return { content := .str text
             model := Provider.fieldOr fields "modelVersion" (.str model)
             usage := some { prompt, completion, total }
             finishReason := reason }
  else .error ⟨.unreadableReply, "no completion candidates returned"⟩

def embeddingModelPath (p : Provider τ) (r : EmbeddingRequest) : String :=
  modelPath (ProviderConfig.orDefault r.model p.embeddingModel)

def embeddingItem (model : String) (dimensions : Number) (text : String) : Json :=
  .obj ([("model", .str model), ("content", .obj [("parts", .arr [textPart text])])]
    ++ Provider.whenPositive "outputDimensionality" dimensions)

def embeddingAsk (p : Provider τ) (r : EmbeddingRequest) : Ask :=
  let model := embeddingModelPath p r
  { method := "POST"
    url := p.address ++ "/" ++ model ++ ":batchEmbedContents"
    payload := some (.value (.obj
      [("requests", .arr (r.input.map (embeddingItem model r.dimensions)))]))
    headers := headers p }

def readEmbeddings (model : String) (body : Text.Bytes) : Except Fault EmbeddingResponse := do
  let fields ← Provider.readObject body "embedding"
  let items ← (Provider.fieldOr fields "embeddings" (.arr [])).parts
  let embeddings ← items.mapM fun item => do
    return (← item.field "values" .null).orElse (.arr [])
  return { embeddings, model := .str (modelName model) }

def modelsAsk (p : Provider τ) : Ask :=
  { method := "GET", url := p.address ++ "/models", headers := headers p }

/-- The name of an entry that can generate content. -/
def generator? (entry : Json) : Except Fault (Option Json) := do
  let methods := (← entry.field "supportedGenerationMethods" .null).orElse (.arr [])
  if ← methods.mentions "generateContent" then
    let name ← (← entry.field "name" (.str "")).asString
    return some (.str (modelName name))
  else return none

def readModels (body : Text.Bytes) : Except Fault (List Json) := do
  let fields ← Provider.readObject body "models"
  let entries ← (Provider.fieldOr fields "models" (.arr [])).parts
  return (← entries.mapM generator?).filterMap id

end MemoAssist.Gemini

import MemoAssist.Provider.OpenAI

namespace MemoAssist.Anthropic

variable {τ : Type} [TimeScale τ]

def version : String := "2023-06-01"

/-- Every request must name a number of tokens. -/
def usualMaxTokens : Int := 4096

def knownModels : List String :=
  ["claude-3-5-sonnet-20241022", "claude-3-5-haiku-20241022", "claude-3-opus-20240229",
   "claude-3-sonnet-20240229", "claude-3-haiku-20240307"]

def headers (p : Provider τ) : Headers :=
  [("x-api-key", p.apiKey), ("anthropic-version", version)]

def conversation (messages : List Message) : List Message :=
  messages.filter fun m => m.role ≠ .system

/-- The instructions that are not empty, a blank line between them. -/
def instructions (messages : List Message) : String :=
  "\n\n".intercalate
    (((messages.filter fun m => m.role = .system).map Message.content).filter (· ≠ ""))

def completionAsk (p : Provider τ) (r : CompletionRequest) : Ask :=
  let system := instructions r.messages
  { method := "POST"
    url := p.address ++ "/v1/messages"
    payload := some (.value (.obj
      ([("model", .str (ProviderConfig.orDefault r.model p.defaultModel)),
        ("messages", .arr ((conversation r.messages).map OpenAI.messageFields)),
        ("max_tokens", .num (if r.maxTokens.isPositive then r.maxTokens else .int usualMaxTokens))]
        ++ (if system = "" then [] else [("system", .str system)])
        ++ Provider.whenPositive "temperature" r.temperature
        ++ Provider.whenPositive "top_p" r.topP)))
    headers := headers p }

/-- The text of a block of text. -/
def blockText? : Json → Option Json
  | .obj block =>
    match Json.find? "type" block with
    | some (.str "text") => some (Provider.fieldOf block "text" (.str ""))
    | _ => none
  | _ => none

def readCompletion (body : Text.Bytes) : Except Fault CompletionResponse := do
  let fields ← Provider.readObject body "completion"
  let blocks ← (Provider.fieldOr fields "content" (.arr [])).parts
  let content ← Json.joined (blocks.filterMap blockText?)
  let usage := Provider.fieldOr fields "usage" (.obj [])
  let input ← usage.field "input_tokens" (.int 0)
  let output ← usage.field "output_tokens" (.int 0)
  let total ← input.add output
  return { content := .str content
           model := Provider.fieldOf fields "model" (.str "")
           usage := some { prompt := input, completion := output, total }
           finishReason := Provider.fieldOr fields "stop_reason" (.str "") }

end MemoAssist.Anthropic

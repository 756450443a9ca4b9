import MemoAssist.Provider.Request
import MemoAssist.Record.Basic

namespace MemoAssist

open Record

def Message.json (m : Message) : Json :=
  .obj [("role", .str m.role.word), ("content", .str m.content)]

def Message.ofJson (record : Json) : Except Fault Message := do
  return ⟨← Role.ofWord (text record "role"), text record "content"⟩

namespace CompletionRequest

def json (r : CompletionRequest) : Json :=
  .obj [("messages", .arr (r.messages.map Message.json)), ("model", .str r.model),
    ("max_tokens", .num r.maxTokens), ("temperature", .num r.temperature), ("top_p", .num r.topP),
    ("stream", .bool r.stream)]

def ofJson (record : Json) : Except Fault CompletionRequest := do
  let plain : CompletionRequest :=
    { messages := ← (items (get record "messages")).mapM Message.ofJson }
  return { plain with
    model := text record "model"
    maxTokens := numberOr plain.maxTokens (get record "max_tokens")
    temperature := numberOr plain.temperature (get record "temperature")
    topP := numberOr plain.topP (get record "top_p")
    stream := flag record "stream" }

end CompletionRequest

namespace EmbeddingRequest

def json (r : EmbeddingRequest) : Json :=
  .obj [("input", ofTexts r.input), ("model", .str r.model), ("dimensions", .num r.dimensions)]

def ofJson (record : Json) : EmbeddingRequest :=
  { input := texts record "input", model := text record "model"
    dimensions := numberOr (.int 0) (get record "dimensions") }

end EmbeddingRequest

namespace SuggestTagsRequest

def json (r : SuggestTagsRequest) : Json :=
  .obj [("content", .str r.content), ("existing_tags", ofTexts r.existingTags),
    ("max_tags", .int r.maxTags), ("language", .str r.language)]

def ofJson (record : Json) : SuggestTagsRequest :=
  { content := text record "content", existingTags := texts record "existing_tags"
    maxTags := integerOr 0 (get record "max_tags"), language := text record "language" }

end SuggestTagsRequest

namespace SummarizeRequest

def json (r : SummarizeRequest) : Json :=
  .obj [("content", .str r.content), ("max_length", .int r.maxLength), ("style", .str r.style)]

def ofJson (record : Json) : SummarizeRequest :=
  { content := text record "content", maxLength := integerOr 0 (get record "max_length")
    style := text record "style" }

end SummarizeRequest

def TokenUsage.json (u : TokenUsage) : Json :=
  .obj [("prompt_tokens", u.prompt), ("completion_tokens", u.completion),
    ("total_tokens", u.total)]

def CompletionResponse.json (r : CompletionResponse) : Json :=
  .obj [("content", r.content), ("model", r.model), ("usage", ofOption TokenUsage.json r.usage),
    ("finish_reason", r.finishReason)]

def EmbeddingResponse.json (r : EmbeddingResponse) : Json :=
  .obj [("embeddings", .arr r.embeddings), ("model", r.model),
    ("usage", ofOption TokenUsage.json r.usage)]

def SuggestTagsResponse.json (r : SuggestTagsResponse) : Json :=
  .obj [("tags", ofTexts r.tags), ("confidence", .arr r.confidence)]

def SummarizeResponse.json (r : SummarizeResponse) : Json :=
  .obj [("summary", r.summary), ("key_points", ofTexts r.keyPoints)]

end MemoAssist

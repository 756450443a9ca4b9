import MemoAssist.Act
import MemoAssist.Json.Loose
import MemoAssist.Prompt
import MemoAssist.Provider.Request
import MemoAssist.Reply

namespace MemoAssist

def usualMaxTags : Int := 5

def usualSummaryLength : Int := 200

def usualSummaryStyle : String := "brief"

/-- A whole number stands in a prompt only if it is not too long to be written. -/
def requireWritable (n : Int) : Except Fault Unit :=
  if Text.isTooLong n then .error .tooLongToWrite else .ok ()

namespace SuggestTagsRequest

def limit (r : SuggestTagsRequest) : Int := if r.maxTags = 0 then usualMaxTags else r.maxTags

def chat (r : SuggestTagsRequest) : CompletionRequest :=
  { messages :=
      [⟨.system, Prompt.tagInstructions⟩,
       ⟨.user, Prompt.tagRequest r.content r.limit r.existingTags r.language⟩]
    temperature := .float 0.3
    maxTokens := .int 100 }

/-- The tags of a reply: those of an array if it is one, and otherwise what the text yields. There
is no such way out of a reply that is too deep. -/
def tagsOf (r : SuggestTagsRequest) (reply : String) : Except Fault (List String) :=
  if Reply.isTooDeep reply then .error (.of .tooDeep)
  else .ok (Reply.upTo r.limit ((Reply.tagArray? reply).getD (Reply.extractedTags reply)))

/-- One chat, and the tags read out of its reply. -/
def answerBy {σ : Type} (complete : CompletionRequest → Act σ CompletionResponse)
    (r : SuggestTagsRequest) : Act σ SuggestTagsResponse := do
  Act.ofExcept (requireWritable r.limit)
  let response ← complete r.chat
  let reply ← Act.ofExcept response.content.asString
  let tags ← Act.ofExcept (r.tagsOf reply)
  pure { tags }

end SuggestTagsRequest

namespace SummarizeRequest

def length (r : SummarizeRequest) : Int :=
  if r.maxLength = 0 then usualSummaryLength else r.maxLength

def manner (r : SummarizeRequest) : String :=
  if r.style = "" then usualSummaryStyle else r.style

def chat (r : SummarizeRequest) : CompletionRequest :=
  { messages :=
      [⟨.system, Prompt.summaryInstructions r.manner r.length⟩,
       ⟨.user, Prompt.summaryRequest r.content⟩]
    temperature := .float 0.5
    maxTokens := .int 300 }

/-- Points are collected from a list of bullets only. -/
def pointsOf (r : SummarizeRequest) (content : Json) : Except Fault (List String) :=
  if r.manner = "bullet" then content.asString.map Reply.keyPoints else .ok []

def answerBy {σ : Type} (complete : CompletionRequest → Act σ CompletionResponse)
    (r : SummarizeRequest) : Act σ SummarizeResponse := do
  Act.ofExcept (requireWritable r.length)
  let response ← complete r.chat
  let keyPoints ← Act.ofExcept (r.pointsOf response.content)
  pure { summary := response.content, keyPoints }

end SummarizeRequest

end MemoAssist

import MemoAssist.Proofs.Provider.Answers

namespace MemoAssist

open Json World

variable {τ : Type} {able : Prop} {shape : List Text.Bytes → Prop} {w : World τ}

/-- What a summary declares as text. Its points are texts by nature, as tags are. -/
def SummarizeResponse.texts (r : SummarizeResponse) : List Json := [r.summary]

/-- A chat gets no reply that opens too many levels. -/
def Shallow (replied : Except Fault CompletionResponse) : Prop :=
  ∀ response, replied = .ok response → ∀ reply, response.content = .str reply →
    Reply.isTooDeep reply = false

/-! ### Tags and summaries by way of a chat -/

section

variable {σ : Type} {ask : CompletionRequest → Act σ CompletionResponse} {now : σ}
  {complete : CompletionRequest → Act (World τ) CompletionResponse}

private theorem requireWritable_tooLong {n : Int} (tooLong : Text.isTooLong n = true) :
    requireWritable n = .error .tooLongToWrite := if_pos tooLong

private theorem requireWritable_ok {n : Int} (writable : Text.isTooLong n = false) :
    requireWritable n = .ok () := if_neg (by simp [writable])

private theorem forall_contents {r : CompletionResponse} :
    (∀ v ∈ r.texts false, v.IsText) ↔ r.content.IsText := by
  simp [CompletionResponse.texts]

namespace SuggestTagsRequest

variable {r : SuggestTagsRequest}

/-- A limit that is too long to be written ends the work before anything is sent. -/
theorem answerBy_tooLong (tooLong : Text.isTooLong r.limit = true) :
    r.answerBy ask now = (.error .tooLongToWrite, now) := by
  rw [answerBy, requireWritable_tooLong tooLong]
  rfl

theorem answerBy_writable (writable : Text.isTooLong r.limit = false) :
    r.answerBy ask = ask r.chat >>= fun response =>
      Act.ofExcept (response.content.asString >>= fun reply =>
        (r.tagsOf reply).map fun tags => ⟨tags, []⟩) := by
  simp only [answerBy, requireWritable_ok writable, Act.ofExcept_map, Act.ofExcept_bind]
  rfl

/-- A reply yields tags if it is a text and not too deep. -/
theorem sound_tagsOf {α : Type} (r : SuggestTagsRequest) (make : List String → α) (content : Json) :
    Sound (fun _ => []) (content.asString >>= fun reply => (r.tagsOf reply).map make) ↔
      content.IsText ∧ ∀ reply, content = .str reply → Reply.isTooDeep reply = false := by
  cases content with
  | str reply =>
    change Sound (fun _ => []) ((r.tagsOf reply).map make) ↔ _
    rw [tagsOf]
    cases deep : Reply.isTooDeep reply with
    | true => exact iff_of_false nofun fun fits => by cases deep.symm.trans (fits.2 reply rfl)
    | false => exact iff_of_true nofun ⟨trivial, fun _ same => Json.str.inj same ▸ deep⟩
  | _ => exact iff_of_false nofun (nomatch ·.1)

private theorem accounted_tagsOf (r : SuggestTagsRequest) (reply : String) : Accounted (r.tagsOf reply) := by
  unfold tagsOf
  split
  · exact .inr (.inr rfl)
  · trivial

private theorem answers_answerBy (writable : Text.isTooLong r.limit = false)
    (answers : Answers able (CompletionResponse.texts false) shape w (complete r.chat w)) :
    Answers able (fun _ => []) (fun bodies => shape bodies ∧ Shallow (complete r.chat w).1) w
      (r.answerBy complete w) := by
  rw [answerBy_writable writable]
  apply answers.andThenIf
  · intro response
    rw [sound_tagsOf, forall_contents]
  · intro response
    exact (Strays.accounted strays_asString).bind fun reply => (accounted_tagsOf r reply).map

end SuggestTagsRequest

namespace SummarizeRequest

variable {r : SummarizeRequest}

theorem answerBy_tooLong (tooLong : Text.isTooLong r.length = true) :
    r.answerBy ask now = (.error .tooLongToWrite, now) := by
  rw [answerBy, requireWritable_tooLong tooLong]
  rfl

theorem answerBy_writable (writable : Text.isTooLong r.length = false) :
    r.answerBy ask = ask r.chat >>= fun response =>
      Act.ofExcept ((r.pointsOf response.content).map fun points => ⟨response.content, points⟩) := by
  simp only [answerBy, requireWritable_ok writable, Act.ofExcept_map]
  rfl

/-- A summary is a text where its points were collected, and is asked to be one elsewhere. -/
theorem sound_pointsOf (r : SummarizeRequest) (content : Json) :
    Sound SummarizeResponse.texts ((r.pointsOf content).map fun points => ⟨content, points⟩) ↔
      content.IsText := by
  unfold pointsOf
  split
  · cases content <;> simp [asString, Except.map, SummarizeResponse.texts, IsText] <;> rfl
  · simp [Except.map, SummarizeResponse.texts]

private theorem strays_pointsOf {content : Json} : Strays (r.pointsOf content) := by
  unfold pointsOf
  split
  · exact strays_asString.map
  · trivial

private theorem answers_answerBy (writable : Text.isTooLong r.length = false)
    (answers : Answers able (CompletionResponse.texts false) shape w (complete r.chat w)) :
    Answers able SummarizeResponse.texts shape w (r.answerBy complete w) := by
  rw [answerBy_writable writable]
  apply answers.andThen
  · intro response
    rw [sound_pointsOf, forall_contents]
  · intro response
    exact Strays.accounted strays_pointsOf.map

end SummarizeRequest

end

/-! ### Every call -/

namespace Provider

section

variable (p : Provider τ)

/-- The completions that come out well, for each family. -/
def CompletionFits (labels : Bool) : Fields → Prop :=
  match p.kind with
  | .openai => OpenAI.CompletionFits labels
  | .anthropic => Anthropic.CompletionFits labels
  | .gemini => Gemini.CompletionFits labels
  | .ollama => Ollama.CompletionFits labels

/-- Only Ollama takes more than one reply for all embeddings, and Anthropic takes none. -/
def EmbeddingsFit : List Text.Bytes → Prop :=
  match p.kind with
  | .openai => AllFit OpenAI.EmbeddingsFit
  | .anthropic => fun _ => True
  | .gemini => AllFit Gemini.EmbeddingsFit
  | .ollama => Ollama.EmbeddingsFit (.int 0)

/-- Anthropic lists its models without asking. -/
def ModelsFit : Fields → Prop :=
  match p.kind with
  | .openai => OpenAI.ModelsFit
  | .anthropic => fun _ => True
  | .gemini => Gemini.ModelsFit
  | .ollama => Ollama.ModelsFit IsText

def completionAsk (r : CompletionRequest) : Ask :=
  match p.kind with
  | .openai => OpenAI.completionAsk p r
  | .anthropic => Anthropic.completionAsk p r
  | .gemini => Gemini.completionAsk p r
  | .ollama => Ollama.completionAsk p r

/-- The first request for embeddings. -/
def embeddingAsk? (r : EmbeddingRequest) : Option Ask :=
  match p.kind with
  | .openai => some (OpenAI.embeddingAsk p r)
  | .anthropic => none
  | .gemini => some (Gemini.embeddingAsk p r)
  | .ollama =>
    r.input.head?.map (Ollama.embeddingAsk p (ProviderConfig.orDefault r.model p.embeddingModel))

def modelsAsk? : Option Ask :=
  match p.kind with
  | .openai => some (OpenAI.modelsAsk p)
  | .anthropic => none
  | .gemini => some (Gemini.modelsAsk p)
  | .ollama => some (Ollama.modelsAsk p)

end

variable [TimeScale τ] {p : Provider τ} {scope : ScopeId}

private theorem answers_complete (welcoming : w.Welcoming) (allowed : 0 ≤ p.transport.maxRetries)
    (labels : Bool) (r : CompletionRequest) :
    Answers (p.Reaches scope w (some (p.completionAsk r))) (CompletionResponse.texts labels)
      (AllFit (p.CompletionFits labels)) w (p.complete scope r w) := by
  apply answers_whenConfigured allFit_nil
  unfold CompletionFits completionAsk
  cases p.kind with
  | openai => exact answers_exchange OpenAI.decodes_completion welcoming allowed _
  | anthropic => exact answers_exchange Anthropic.decodes_completion welcoming allowed _
  | gemini => exact answers_exchange (Gemini.decodes_completion _) welcoming allowed _
  | ollama => exact answers_exchange Ollama.decodes_completion welcoming allowed _

private theorem answers_embed (welcoming : w.Welcoming) (allowed : 0 ≤ p.transport.maxRetries)
    (r : EmbeddingRequest) :
    Answers (p.Reaches scope w (p.embeddingAsk? r)) EmbeddingResponse.texts p.EmbeddingsFit w
      (p.embed scope r w) := by
  unfold embed EmbeddingsFit embeddingAsk?
  cases p.kind with
  | openai =>
    apply answers_whenConfigured allFit_nil
    exact answers_exchange OpenAI.decodes_embeddings welcoming allowed _
  | anthropic => exact .refused rfl (fun ⟨_, _, absent, _⟩ => nomatch absent) trivial
  | gemini =>
    apply answers_whenConfigured allFit_nil
    exact answers_exchange (Gemini.decodes_embeddings _) welcoming allowed _
  | ollama =>
    have nothing : Ollama.EmbeddingsFit (.int 0) [] := trivial
    apply answers_whenConfigured nothing
    apply Answers.andThen (Ollama.answers_embedAll allowed _ _ _ welcoming) (fun found => .ok _)
    · intro found
      simp [EmbeddingResponse.texts]
    · intro found
      trivial

private theorem answers_models (welcoming : w.Welcoming) (allowed : 0 ≤ p.transport.maxRetries) :
    Answers (p.Reaches scope w p.modelsAsk?) id (AllFit p.ModelsFit) w (p.models scope w) := by
  apply answers_whenConfigured allFit_nil
  unfold ModelsFit modelsAsk?
  cases p.kind with
  | openai => exact answers_exchange OpenAI.decodes_models welcoming allowed _
  | anthropic => exact .silent (by simp) trivial (fun ⟨_, absent, _⟩ => nomatch absent) allFit_nil
  | gemini => exact answers_exchange Gemini.decodes_models welcoming allowed _
  | ollama => exact answers_exchange Ollama.decodes_models welcoming allowed _

theorem hasModel_eq (family : p.kind = .ollama) (model : String) :
    p.hasModel scope model = p.whenConfigured (p.exchange scope (Ollama.modelsAsk p) fun body =>
      Ollama.readModels body >>= Ollama.lists model) := by
  rw [← exchange_bind, ← whenConfigured_bind, hasModel, models, family]

/-- What becomes of every call, whatever replies a backend gives to it. -/
structure Answering (p : Provider τ) (scope : ScopeId) (w : World τ) : Prop where
  complete : ∀ r, Answers (p.Reaches scope w (some (p.completionAsk r)))
    (CompletionResponse.texts true) (AllFit (p.CompletionFits true)) w (p.complete scope r w)
  embed : ∀ r, Answers (p.Reaches scope w (p.embeddingAsk? r)) EmbeddingResponse.texts p.EmbeddingsFit w
    (p.embed scope r w)
  /-- Nobody looks at the labels of a chat about tags, or at those of one about a summary. -/
  suggestTags : ∀ r, Text.isTooLong r.limit = false →
    Answers (p.Reaches scope w (some (p.completionAsk r.chat))) (fun _ => [])
      (fun bodies => AllFit (p.CompletionFits false) bodies ∧ Shallow (p.complete scope r.chat w).1) w
      (p.suggestTags scope r w)
  summarize : ∀ r, Text.isTooLong r.length = false →
    Answers (p.Reaches scope w (some (p.completionAsk r.chat))) SummarizeResponse.texts
      (AllFit (p.CompletionFits false)) w (p.summarize scope r w)
  models : Answers (p.Reaches scope w p.modelsAsk?) id (AllFit p.ModelsFit) w (p.models scope w)
  hasModel : p.kind = .ollama → ∀ model,
    Answers (p.Reaches scope w (some (Ollama.modelsAsk p))) (fun _ => [])
      (AllFit (Ollama.ModelsFit Ollama.Comparable)) w (p.hasModel scope model w)
  version : p.kind = .ollama →
    Answers (p.Reaches scope w (some (Ollama.versionAsk p))) (fun version => [version])
      (AllFit (Under "version" IsText)) w (p.version scope w)
  /-- A number that is too long to be written escapes from where the prompt is made. -/
  limit : ∀ r, Text.isTooLong r.limit = true → p.suggestTags scope r w = (.error .tooLongToWrite, w)
  length : ∀ r, Text.isTooLong r.length = true → p.summarize scope r w = (.error .tooLongToWrite, w)

theorem answering (welcoming : w.Welcoming) (allowed : 0 ≤ p.transport.maxRetries) :
    p.Answering scope w where
  complete r := answers_complete welcoming allowed true r
  embed r := answers_embed welcoming allowed r
  suggestTags r writable := r.answers_answerBy writable (answers_complete welcoming allowed false _)
  summarize r writable := r.answers_answerBy writable (answers_complete welcoming allowed false _)
  models := answers_models welcoming allowed
  hasModel family model := by
    rw [hasModel_eq family]
    apply answers_whenConfigured allFit_nil
    exact answers_exchange (Ollama.decodes_lists model) welcoming allowed _
  version _ := by
    apply answers_whenConfigured allFit_nil
    exact answers_exchange Ollama.decodes_version welcoming allowed _
  limit r tooLong := r.answerBy_tooLong tooLong
  length r tooLong := r.answerBy_tooLong tooLong

/-- A reply with a number where there should be a choice. -/
def oddChoice : Text.Bytes := Text.encode "\x7b\"choices\":[1]\x7d"

private theorem readBytes?_oddChoice :
    readBytes? oddChoice = some (.obj [("choices", .arr [.num (.int 1)])]) := by
  have decoded : Text.decodeDocument? oddChoice = some
      ['{', '"', 'c', 'h', 'o', 'i', 'c', 'e', 's', '"', ':', '[', '1', ']', '}'] := by
    decide +kernel
  rw [readBytes?_eq decoded]
  rfl

private theorem oddChoice_misfit : ¬ Fits (OpenAI.CompletionFits true) oddChoice := by
  rw [fits_iff readBytes?_oddChoice]
  intro fits
  exact (fits rfl).choice

/-- A chat whose reply has a number for its first choice is sent, and does not come out well: what
it ends in is not a failure of language-model work. -/
theorem answering_oddChoice :
    let p : Provider Int := create { kind := .openai, apiKey := "k", timeout := 0 }
    let w : World Int := (openScope none none (start fun _ => ⟨.answer 200 oddChoice, none⟩)).2
    let chat : CompletionRequest :=
      { messages := [⟨.user, "hi"⟩], temperature := .int 0, topP := .int 0 }
    w.Welcoming ∧ 0 ≤ p.transport.maxRetries ∧ p.Reaches 0 w (some (p.completionAsk chat)) ∧
      ¬ Sound (CompletionResponse.texts true) (p.complete 0 chat w).1 := by
  intro p w chat
  have welcoming : w.Welcoming := fun _ _ => ⟨200, oddChoice, rfl, by decide, by decide⟩
  have allowed : 0 ≤ p.transport.maxRetries := by decide
  have reaches : p.Reaches 0 w (some (p.completionAsk chat)) := ⟨rfl, _, rfl, rfl, _, rfl⟩
  refine ⟨welcoming, allowed, reaches, ?_⟩
  have answers : p.Answering 0 w := answering welcoming allowed
  obtain ⟨bodies, heard, some, sound, -⟩ := answers.complete chat
  rw [sound]
  -- Every body that is heard is the same, and there is one.
  obtain ⟨body, rest, rfl⟩ := List.exists_cons_of_ne_nil (some reaches)
  have reply := heard.replies 0 body rfl
  cases reply
  intro fit
  exact oddChoice_misfit (fit oddChoice List.mem_cons_self)

end Provider

end MemoAssist

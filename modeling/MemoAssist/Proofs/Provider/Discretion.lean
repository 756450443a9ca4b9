import MemoAssist.Proofs.Wire.Veil
import MemoAssist.Provider.Calls

/-! The credential of a provider. It goes into one header of every request and nowhere else, so whoever
does not see that header cannot tell one credential from another. -/
namespace MemoAssist

variable {τ : Type}

/-- The header that carries the credential of a family. -/
def ProviderKind.credentialHeader? : ProviderKind → Option String
  | .openai => some "Authorization"
  | .anthropic => some "x-api-key"
  | .gemini => some "x-goog-api-key"
  | .ollama => none

/-- The four requests that every provider takes, and a registry for it. -/
inductive Inquiry where
  | completion (r : CompletionRequest)
  | embeddings (r : EmbeddingRequest)
  | tags (r : SuggestTagsRequest)
  | summary (r : SummarizeRequest)

/-- What comes of them. -/
inductive Response where
  | completion (r : CompletionResponse)
  | embeddings (r : EmbeddingResponse)
  | tags (r : SuggestTagsResponse)
  | summary (r : SummarizeResponse)

def Provider.respond [TimeScale τ] (p : Provider τ) (scope : ScopeId) :
    Inquiry → Act (World τ) Response
  | .completion r => do return .completion (← p.complete scope r)
  | .embeddings r => do return .embeddings (← p.embed scope r)
  | .tags r => do return .tags (← p.suggestTags scope r)
  | .summary r => do return .summary (← p.summarize scope r)

/-- What a provider is asked for, and what happens in between. -/
inductive Consultation (τ : Type) where
  | ask (scope : ScopeId) (q : Inquiry)
  | models (scope : ScopeId)
  | hasModel (scope : ScopeId) (model : String)
  | version (scope : ScopeId)
  /-- Time passes, or scopes are opened and cancelled. -/
  | meanwhile (change : Timeline τ → Timeline τ)

/-- What a consultation yields when it comes out well. -/
inductive Finding where
  | response (r : Response)
  | models (names : List Json)
  | installed (found : Bool)
  | version (reported : Json)
  | nothing

namespace Provider

/-- The same provider with another credential. -/
def rekeyed (key : String) (p : Provider τ) : Provider τ := { p with apiKey := key }

section

variable [TimeScale τ]

def consult (p : Provider τ) : Consultation τ → Act (World τ) Finding
  | .ask scope q => do return .response (← p.respond scope q)
  | .models scope => do return .models (← p.models scope)
  | .hasModel scope model => do return .installed (← p.hasModel scope model)
  | .version scope => do return .version (← p.version scope)
  | .meanwhile change => do
    World.onTime (Act.modify change)
    return .nothing

/-- One consultation after the other, also after one that failed. -/
def consultAll (p : Provider τ) :
    List (Consultation τ) → Act (World τ) (List (Except Fault Finding))
  | [] => pure []
  | first :: rest => do
    let outcome ← (p.consult first).attempt
    return outcome :: (← p.consultAll rest)

end

/-! ### Requests -/

variable (key : String) (p : Provider τ)

private theorem veil_authorization : (OpenAI.authorization p).veil (some "Authorization") =
    (OpenAI.authorization (p.rekeyed key)).veil (some "Authorization") := by
  simp [OpenAI.authorization, Headers.veil, Headers.veilOne]

private theorem veil_anthropic : (Anthropic.headers p).veil (some "x-api-key") =
    (Anthropic.headers (p.rekeyed key)).veil (some "x-api-key") := by
  simp [Anthropic.headers, Headers.veil, Headers.veilOne]

private theorem veil_gemini : (Gemini.headers p).veil (some "x-goog-api-key") =
    (Gemini.headers (p.rekeyed key)).veil (some "x-goog-api-key") := by
  simp [Gemini.headers, Headers.veil, Headers.veilOne]

/-! ### Calls -/

variable [TimeScale τ] {key p} {hidden : Option String} {α : Type} {work work' : Act (World τ) α}

theorem veiled_exchange {ask ask' : Ask} (alike : ask.veil hidden = ask'.veil hidden) (scope : ScopeId)
    (read : Text.Bytes → Except Fault α) :
    Veiled hidden (p.exchange scope ask read) ((p.rekeyed key).exchange scope ask' read) :=
  (p.transport.veiled_request alike scope).bind fun body => .ofExcept (read body)

variable (known : (p.rekeyed key).isConfigured = p.isConfigured) (scope : ScopeId)
include known

omit [TimeScale τ] in
theorem veiled_whenConfigured (alike : Veiled hidden work work') :
    Veiled hidden (p.whenConfigured work) ((p.rekeyed key).whenConfigured work') := by
  rw [whenConfigured, whenConfigured, requireConfigured, requireConfigured, known]
  exact (Act.Alike.ofExcept _).bind fun _ => alike

private theorem veiled_complete (r : CompletionRequest) : Veiled p.kind.credentialHeader?
    (p.complete scope r) ((p.rekeyed key).complete scope r) := by
  apply veiled_whenConfigured known
  obtain ⟨kind⟩ := p
  cases kind with
  | openai =>
    refine veiled_exchange ?_ _ _
    exact Ask.veil_eq_iff.mpr ⟨rfl, rfl, rfl, veil_authorization key _⟩
  | anthropic =>
    refine veiled_exchange ?_ _ _
    exact Ask.veil_eq_iff.mpr ⟨rfl, rfl, rfl, veil_anthropic key _⟩
  | gemini =>
    refine veiled_exchange ?_ _ _
    exact Ask.veil_eq_iff.mpr ⟨rfl, rfl, rfl, veil_gemini key _⟩
  | ollama => exact veiled_exchange rfl _ _

omit known in
private theorem veiled_embedAll (model : String) (texts : List String) (tokens : Json) :
    Veiled hidden (Ollama.embedAll p scope model tokens texts)
      (Ollama.embedAll (p.rekeyed key) scope model tokens texts) := by
  induction texts generalizing tokens with
  | nil => exact .pure _
  | cons text rest ih =>
    refine (veiled_exchange rfl scope Ollama.readEmbedding).bind fun (vector, count) => ?_
    refine (Act.Alike.ofExcept _).bind fun tokens => ?_
    exact (ih tokens).bind fun _ => .pure _

private theorem veiled_embed (r : EmbeddingRequest) : Veiled p.kind.credentialHeader?
    (p.embed scope r) ((p.rekeyed key).embed scope r) := by
  obtain ⟨kind⟩ := p
  cases kind with
  | openai =>
    apply veiled_whenConfigured known
    refine veiled_exchange ?_ _ _
    exact Ask.veil_eq_iff.mpr ⟨rfl, rfl, rfl, veil_authorization key _⟩
  | anthropic => exact .fail _
  | gemini =>
    apply veiled_whenConfigured known
    refine veiled_exchange ?_ _ _
    exact Ask.veil_eq_iff.mpr ⟨rfl, rfl, rfl, veil_gemini key _⟩
  | ollama =>
    apply veiled_whenConfigured known
    exact (veiled_embedAll scope _ _ _).bind fun _ => .pure _

private theorem veiled_suggestTags (r : SuggestTagsRequest) : Veiled p.kind.credentialHeader?
    (p.suggestTags scope r) ((p.rekeyed key).suggestTags scope r) := by
  refine (Act.Alike.ofExcept _).bind fun _ => ?_
  refine (veiled_complete known scope r.chat).bind fun response => ?_
  refine (Act.Alike.ofExcept _).bind fun reply => ?_
  exact (Act.Alike.ofExcept _).bind fun _ => .pure _

private theorem veiled_summarize (r : SummarizeRequest) : Veiled p.kind.credentialHeader?
    (p.summarize scope r) ((p.rekeyed key).summarize scope r) := by
  refine (Act.Alike.ofExcept _).bind fun _ => ?_
  refine (veiled_complete known scope r.chat).bind fun response => ?_
  exact (Act.Alike.ofExcept _).bind fun _ => .pure _

private theorem veiled_models : Veiled p.kind.credentialHeader?
    (p.models scope) ((p.rekeyed key).models scope) := by
  apply veiled_whenConfigured known
  obtain ⟨kind⟩ := p
  cases kind with
  | openai =>
    refine veiled_exchange ?_ _ _
    exact Ask.veil_eq_iff.mpr ⟨rfl, rfl, rfl, veil_authorization key _⟩
  | anthropic => exact .pure _
  | gemini =>
    refine veiled_exchange ?_ _ _
    exact Ask.veil_eq_iff.mpr ⟨rfl, rfl, rfl, veil_gemini key _⟩
  | ollama => exact veiled_exchange rfl _ _

/-! ### Sequences of calls -/

private theorem veiled_consult (e : Consultation τ) : Veiled p.kind.credentialHeader?
    (p.consult e) ((p.rekeyed key).consult e) := by
  cases e with
  | ask scope q =>
    refine .bind ?_ fun _ => .pure _
    cases q with
    | completion r => exact (veiled_complete known scope r).bind fun _ => .pure _
    | embeddings r => exact (veiled_embed known scope r).bind fun _ => .pure _
    | tags r => exact (veiled_suggestTags known scope r).bind fun _ => .pure _
    | summary r => exact (veiled_summarize known scope r).bind fun _ => .pure _
  | models scope => exact (veiled_models known scope).bind fun _ => .pure _
  | hasModel scope model =>
    refine .bind ?_ fun _ => .pure _
    exact (veiled_models known scope).bind fun _ => .ofExcept _
  | version scope =>
    refine .bind ?_ fun _ => .pure _
    exact veiled_whenConfigured known (veiled_exchange rfl scope Ollama.readVersion)
  | meanwhile change => exact (World.veiled_onTime _).bind fun _ => .pure _

private theorem veiled_consultAll (all : List (Consultation τ)) : Veiled p.kind.credentialHeader?
    (p.consultAll all) ((p.rekeyed key).consultAll all) := by
  induction all with
  | nil => exact .pure _
  | cons first rest ih =>
    exact (veiled_consult known first).attempt.bind fun _ => ih.bind fun _ => .pure _

omit known

/-- Two providers that cannot be told apart, but for the value of one header of what they send. -/
structure Discreet (hidden : Option String) (p p' : Provider τ) : Prop where
  outcomes : ∀ all w, (p.consultAll all w).1 = (p'.consultAll all w).1
  /-- The requests agree in number, method, address, body, time limit and in all other headers. -/
  requests : ∀ all w, (p.consultAll all w).2.sent.map (Sent.veil hidden) =
    (p'.consultAll all w).2.sent.map (Sent.veil hidden)
  time : ∀ all w, (p.consultAll all w).2.time = (p'.consultAll all w).2.time
  journal : ∀ all w, (p.consultAll all w).2.journal = (p'.consultAll all w).2.journal
  /-- Where no header carries a credential, everything is the same. -/
  bare : hidden = none → ∀ all w, p.consultAll all w = p'.consultAll all w

omit [TimeScale τ] in
private theorem isConfigured_rekeyed (set : p.kind = .ollama ∨ p.apiKey ≠ "" ∧ key ≠ "") :
    (p.rekeyed key).isConfigured = p.isConfigured := by
  obtain ⟨kind⟩ := p
  rcases set with rfl | ⟨old, new⟩
  · rfl
  · cases kind with
    | openai | anthropic | gemini => exact (decide_eq_true new).trans (decide_eq_true old).symm
    | ollama => rfl

/-- Nothing else about a provider depends on the credential that it is made with. -/
theorem create_rekeyed (config : ProviderConfig τ) (key : String) :
    create { config with apiKey := key } =
      (create config).rekeyed (if config.kind = .ollama then "" else key) := by
  obtain ⟨kind⟩ := config
  cases kind <;> rfl

theorem discreet (config : ProviderConfig τ) (key : String)
    (set : config.kind = .ollama ∨ config.apiKey ≠ "" ∧ key ≠ "") :
    Discreet config.kind.credentialHeader? (create config) (create { config with apiKey := key }) := by
  have known : ((create config).rekeyed (if config.kind = .ollama then "" else key)).isConfigured =
      (create config).isConfigured := by
    apply isConfigured_rekeyed
    rw [kind_create]
    by_cases here : config.kind = .ollama
    · exact .inl here
    · rw [if_neg here, apiKey_create here]
      exact set
  have alike := fun all w => veiled_consultAll known all w w rfl
  rw [kind_create config] at alike
  rw [create_rekeyed config key]
  refine ⟨fun all w => (alike all w).1, fun all w => ?_, fun all w => ?_, fun all w => ?_, ?_⟩
  · exact (World.veil_eq_iff.mp (alike all w).2).2.2.2.1
  · exact (World.veil_eq_iff.mp (alike all w).2).1
  · exact (World.veil_eq_iff.mp (alike all w).2).2.2.2.2
  · intro bare all w
    obtain ⟨outcomes, left⟩ := alike all w
    rw [bare, World.veil_none, World.veil_none] at left
    exact Prod.ext outcomes left

def firstKey : ProviderConfig Int := { kind := .openai, apiKey := "sk-1", timeout := 30 }

/-- A credential that is refused was sent, and is told from another by what was sent only. -/
theorem discreet_refused :
    (firstKey.apiKey ≠ "" ∧ "sk-2" ≠ "") ∧
      Discreet (some "Authorization") (create firstKey) (create { firstKey with apiKey := "sk-2" }) ∧
      ((create firstKey).consultAll [.models 0] (.start fun _ => ⟨.answer 401 [], none⟩)).2.sent.map
        Sent.headers = [[("Content-Type", "application/json"), ("Authorization", "Bearer sk-1")]] :=
  ⟨by decide, discreet firstKey "sk-2" (.inr (by decide)), by rfl⟩

end Provider

end MemoAssist

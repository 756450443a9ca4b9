import MemoAssist.Proofs.Provider.Bodies
import MemoAssist.Proofs.Provider.InTurn

namespace MemoAssist

open Json

variable {τ : Type}

namespace Provider

/-- What a request for a chat tells in the words of the family, by its address and its body. -/
def Conveys (p : Provider τ) (r : CompletionRequest) (url : String) (body : Fields) : Prop :=
  match p.kind with
  | .openai => OpenAI.Conveys p r body
  | .anthropic => Anthropic.Conveys p r body
  | .gemini => Gemini.Conveys p r url body
  | .ollama => Ollama.Conveys p r body

/-- What goes into the body of the request for a chat. -/
theorem payload_completionAsk (p : Provider τ) (r : CompletionRequest) :
    ∃ fields, (p.completionAsk r).payload = some (.value (.obj fields)) ∧
      p.Conveys r (p.completionAsk r).url fields ∧
        (r.Legible → (Json.obj fields).hasLongNumber = false → (Json.obj fields).Readable) := by
  unfold Conveys completionAsk
  cases p.kind with
  | openai => exact ⟨_, rfl, OpenAI.conveys p r, OpenAI.readable_completion⟩
  | anthropic => exact ⟨_, rfl, Anthropic.conveys p r, Anthropic.readable_completion⟩
  | gemini => exact ⟨_, rfl, Gemini.conveys p r, Gemini.readable_completion⟩
  | ollama => exact ⟨_, rfl, Ollama.conveys p r, Ollama.readable_completion⟩

variable [TimeScale τ] {p : Provider τ} {scope : ScopeId} {r : CompletionRequest} {w : World τ}

/-- A chat is one exchange, read in the way of the family. -/
theorem complete_eq (p : Provider τ) (scope : ScopeId) (r : CompletionRequest) :
    ∃ read, p.complete scope r = p.whenConfigured (p.exchange scope (p.completionAsk r) read) := by
  unfold complete completionAsk
  cases p.kind with
  | openai | anthropic | gemini | ollama => exact ⟨_, rfl⟩

private theorem sent_exchange {α : Type} (ask : Ask) (read : Text.Bytes → Except Fault α) :
    (p.exchange scope ask read w).2.sent = (p.transport.request scope ask w).2.sent := by
  rcases requested : p.transport.request scope ask w with ⟨f | body, after⟩
  · have ended : p.exchange scope ask read w = (.error f, after) := Act.bind_error requested
    rw [ended]
  · rw [exchange_ok requested]

/-- What an attempt at a request for a chat holds: a body that tells all, as a text from which it is
read back if the numbers in it are. -/
def Tells (p : Provider τ) (r : CompletionRequest) (s : Sent τ) : Prop :=
  ∃ body, p.Conveys r s.url body ∧ ∃ text, s.body = some text ∧ text = (Json.obj body).write ∧
    (r.Legible → read? text.toList = some (.obj body))

omit [TimeScale τ] in
private theorem tells_of_carries {s : Sent τ} (carries : s.Carries (p.completionAsk r)) : p.Tells r s := by
  obtain ⟨body, payload, conveys, readable⟩ := payload_completionAsk p r
  obtain ⟨short, written⟩ := Transport.bodyText_value.mp (payload ▸ carries.body)
  exact ⟨body, carries.url ▸ conveys, _, written, rfl, fun legible =>
    read?_write (readable legible short)⟩

/-- What a chat makes of the record of requests. -/
structure Conversed (p : Provider τ) (scope : ScopeId) (r : CompletionRequest) (w : World τ)
    (extra : List (Sent τ)) : Prop where
  sent : (p.complete scope r w).2.sent = w.sent ++ extra
  told : ∀ s ∈ extra, s.Carries (p.completionAsk r) ∧ p.Tells r s
  /-- There is a request whenever the provider is configured and the request can be sent. -/
  asked : p.isConfigured = true → 0 ≤ p.transport.maxRetries →
    World.Sendable scope w (p.completionAsk r) → extra ≠ []

theorem complete_conversed (p : Provider τ) (scope : ScopeId) (r : CompletionRequest) (w : World τ) :
    ∃ extra, p.Conversed scope r w extra := by
  obtain ⟨read, work⟩ := complete_eq p scope r
  cases configured : p.isConfigured with
  | false =>
    refine ⟨[], ?_, nofun, fun able => absurd (configured.symm.trans able) Bool.false_ne_true⟩
    rw [work, whenConfigured_unfit configured, List.append_nil]
  | true =>
    obtain ⟨extra, delivered, some⟩ :=
      Transport.request_delivered p.transport scope (p.completionAsk r) w
    refine ⟨extra, ?_, fun s member => ?_, fun _ => some⟩
    · rw [work, whenConfigured_eq configured, sent_exchange]
      exact delivered.sent
    · have carries := delivered.carries s member
      exact ⟨carries, tells_of_carries carries⟩

/-- A chat with an instruction, a question and an answer. -/
def shortChat : CompletionRequest :=
  { messages := [⟨.system, "Be brief."⟩, ⟨.user, "Done?"⟩, ⟨.assistant, "Yes."⟩]
    maxTokens := .int 5, temperature := .float 0.5, topP := .int 0 }

private theorem faithful_half : (Number.float 0.5).Faithful := by
  have written : writeNumber (.float 0.5) = "0.5" := by decide +kernel
  have half : Decimal.read false 5 (-1) = 0.5 := by decide +kernel
  have read : number? "0.5".toList = some (.float (Decimal.read false 5 (-1)), []) := rfl
  rw [Number.Faithful, written]
  exact value?_of_number? (read.trans (by rw [half])) 0

private theorem legible_shortChat : shortChat.Legible := by
  simp [CompletionRequest.Legible, shortChat, Number.Legible, faithful_half]

/-- The request for a short chat is sent, and holds who said what, the instruction and the number that
was asked for. -/
theorem complete_shortChat :
    let p : Provider Int := create { kind := .gemini, apiKey := "k", timeout := 0 }
    ∃ extra, p.Conversed 0 shortChat (World.telling []) extra ∧ extra ≠ [] ∧
      ∀ s ∈ extra, ∃ text body, s.body = some text ∧ read? text.toList = some (.obj body) ∧
        Gemini.turns? body = some [("user", ["Done?"]), ("model", ["Yes."])] ∧
          Gemini.instructions? body = some ["Be brief."] ∧
            find? "temperature" (fieldsUnder "generationConfig" body) = some (.num (.float 0.5)) := by
  intro p
  obtain ⟨extra, conversed⟩ := complete_conversed p 0 shortChat (World.telling [])
  have short : (Json.obj (Gemini.completionFields shortChat)).hasLongNumber = false := by decide +kernel
  have sendable : World.Sendable 0 (World.telling []) (p.completionAsk shortChat) :=
    ⟨rfl, _, Transport.bodyText_value.mpr ⟨short, rfl⟩⟩
  refine ⟨extra, conversed, conversed.asked rfl (by decide) sendable, fun s member => ?_⟩
  obtain ⟨-, body, told, text, sent, -, read⟩ := conversed.told s member
  have told : Gemini.Conveys p shortChat s.url body := told
  exact ⟨text, body, sent, read legible_shortChat, told.turns, told.system (List.cons_ne_nil _ _),
    told.options.temperature.trans (if_pos (by decide))⟩

end Provider

end MemoAssist

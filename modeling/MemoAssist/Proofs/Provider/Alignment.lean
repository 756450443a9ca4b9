import MemoAssist.Proofs.Provider.Embeddings

/-! How many embeddings come back. Where each text has a request of its own there is one for each;
where all texts are sent at once there are as many as the reply lists, and nobody counts the texts. -/
namespace MemoAssist

open Json

variable {τ α β : Type} {body : Text.Bytes} {response : EmbeddingResponse}

/-- The items that a reply lists under a key. -/
def ItemsIn (key : String) (body : Text.Bytes) (items : List Json) : Prop :=
  ∃ reply, readBytes? body = some (.obj reply) ∧
    (Provider.fieldOr reply key (.arr [])).parts = .ok items

private theorem readObject_ok {what : String} {reply : Fields}
    (read : Provider.readObject body what = .ok reply) :
    readBytes? body = some (.obj reply) := by
  have result := objectRead what body
  rw [read] at result
  cases result with
  | held held => exact held

theorem OpenAI.counted (read : readEmbeddings body = .ok response) :
    ∃ items, ItemsIn "data" body items ∧ response.embeddings.length = items.length := by
  obtain ⟨reply, object, read⟩ := bind_eq_ok.mp read
  obtain ⟨items, parts, read⟩ := bind_eq_ok.mp read
  obtain ⟨keyed, found, read⟩ := bind_eq_ok.mp read
  obtain ⟨sorted, ordered, read⟩ := bind_eq_ok.mp read
  obtain ⟨vectors, vectorsRead, read⟩ := bind_eq_ok.mp read
  obtain ⟨usage, -, read⟩ := bind_eq_ok.mp read
  cases read
  have perm := ends_inOrder keyed
  rw [ordered] at perm
  refine ⟨items, ⟨reply, readObject_ok object, parts⟩, ?_⟩
  calc vectors.length = sorted.length := (mapM_eq_ok.mp vectorsRead).length_eq.symm
    _ = keyed.length := List.Perm.length_eq perm
    _ = items.length := (mapM_eq_ok.mp found).length_eq.symm

theorem Gemini.counted {model : String} (read : readEmbeddings model body = .ok response) :
    ∃ items, ItemsIn "embeddings" body items ∧ response.embeddings.length = items.length := by
  obtain ⟨reply, object, read⟩ := bind_eq_ok.mp read
  obtain ⟨items, parts, read⟩ := bind_eq_ok.mp read
  obtain ⟨vectors, vectorsRead, read⟩ := bind_eq_ok.mp read
  cases read
  exact ⟨items, ⟨reply, readObject_ok object, parts⟩, (mapM_eq_ok.mp vectorsRead).length_eq.symm⟩

/-- The name of the model is all that the request adds to the reply. -/
theorem Gemini.readEmbeddings_model {model : String} (other : String)
    (read : readEmbeddings model body = .ok response) :
    readEmbeddings other body = .ok { response with model := .str (modelName other) } := by
  obtain ⟨reply, object, read⟩ := bind_eq_ok.mp read
  obtain ⟨items, parts, read⟩ := bind_eq_ok.mp read
  obtain ⟨vectors, vectorsRead, read⟩ := bind_eq_ok.mp read
  cases read
  rw [readEmbeddings, bind_of_ok object, bind_of_ok parts, bind_of_ok vectorsRead]
  rfl

variable [TimeScale τ] {p : Provider τ} {scope : ScopeId} {w after : World τ}

private theorem Ollama.length_embedAll {model : String} {tokens total : Json} {texts : List String}
    {vectors : List Json} (done : embedAll p scope model tokens texts w = (.ok (vectors, total), after)) :
    vectors.length = texts.length := by
  induction texts generalizing w tokens vectors with
  | nil =>
    cases done
    rfl
  | cons text rest ih =>
    rw [embedAll] at done
    obtain ⟨⟨vector, count⟩, heard, -, done⟩ := Act.of_bind_ok done
    obtain ⟨sum, _, -, done⟩ := Act.of_bind_ok done
    obtain ⟨⟨others, _⟩, _, later, done⟩ := Act.of_bind_ok done
    cases done
    exact congrArg (· + 1) (ih later)

namespace Provider

/-- One request for all texts: what is sent, where the reply lists its items, and how it is read. -/
structure Bulk where
  ask : Ask
  key : String
  read : Text.Bytes → Except Fault EmbeddingResponse

/-- The request for all texts of the families that make one. -/
def bulk? (p : Provider τ) (r : EmbeddingRequest) : Option Bulk :=
  match p.kind with
  | .openai => some ⟨OpenAI.embeddingAsk p r, "data", OpenAI.readEmbeddings⟩
  | .gemini =>
    some ⟨Gemini.embeddingAsk p r, "embeddings", Gemini.readEmbeddings (Gemini.embeddingModelPath p r)⟩
  | .anthropic | .ollama => none

variable {r r' : EmbeddingRequest} {bulk bulk' : Bulk}

private theorem embed_bulk (atOnce : p.bulk? r = some bulk) :
    p.embed scope r = p.whenConfigured (p.exchange scope bulk.ask bulk.read) := by
  revert atOnce
  unfold bulk? embed
  cases p.kind <;> rintro ⟨⟩ <;> rfl

omit [TimeScale τ] in
private theorem bulk_counted (atOnce : p.bulk? r = some bulk) (read : bulk.read body = .ok response) :
    ∃ items, ItemsIn bulk.key body items ∧ response.embeddings.length = items.length := by
  revert atOnce
  unfold bulk?
  cases p.kind <;> rintro ⟨⟩
  · exact OpenAI.counted read
  · exact Gemini.counted read

omit [TimeScale τ] in
/-- Two requests to one provider read the same embeddings from a reply. -/
theorem bulk_alike (atOnce : p.bulk? r = some bulk) (other : p.bulk? r' = some bulk')
    (read : bulk.read body = .ok response) :
    ∃ response', bulk'.read body = .ok response' ∧ response'.embeddings = response.embeddings := by
  revert atOnce other
  unfold bulk?
  cases p.kind <;> rintro ⟨⟩ ⟨⟩
  · exact ⟨response, read, rfl⟩
  · exact ⟨_, Gemini.readEmbeddings_model _ read, rfl⟩

private theorem exchange_eq_ok {ask : Ask} {read : Text.Bytes → Except Fault α} {a : α}
    (done : p.exchange scope ask read w = (.ok a, after)) :
    ∃ body, p.transport.request scope ask w = (.ok body, after) ∧ read body = .ok a := by
  obtain ⟨body, between, requested, done⟩ := Act.of_bind_ok done
  rw [Act.ofExcept_eq, Prod.mk.injEq] at done
  obtain ⟨read, rfl⟩ := done
  exact ⟨body, requested, read⟩

omit [TimeScale τ] in
private theorem whenConfigured_eq_ok {work : Act (World τ) α} {a : α}
    (done : p.whenConfigured work w = (.ok a, after)) :
    p.isConfigured = true ∧ work w = (.ok a, after) := by
  cases configured : p.isConfigured with
  | true =>
    rw [whenConfigured_eq configured] at done
    exact ⟨rfl, done⟩
  | false =>
    rw [whenConfigured_unfit configured] at done
    cases done

/-- How many embeddings a call comes back with. -/
structure Counted (p : Provider τ) (scope : ScopeId) (r : EmbeddingRequest) (w : World τ) : Prop where
  /-- One for each text, where each has a request of its own. -/
  inTurn : p.kind = .ollama → ∀ {response after}, p.embed scope r w = (.ok response, after) →
    response.embeddings.length = r.input.length
  unsupported : p.kind = .anthropic → ∀ {response after}, p.embed scope r w ≠ (.ok response, after)
  /-- As many as the reply lists, where all texts are sent at once. -/
  atOnce : ∀ {bulk response after}, p.bulk? r = some bulk → p.embed scope r w = (.ok response, after) →
    ∃ body items, p.transport.request scope bulk.ask w = (.ok body, after) ∧
      ItemsIn bulk.key body items ∧ response.embeddings.length = items.length
  /-- The same reply to a request for other texts brings the same embeddings, however many texts
  there are. -/
  blind : ∀ {bulk body response after}, p.bulk? r = some bulk →
    p.transport.request scope bulk.ask w = (.ok body, after) →
      p.embed scope r w = (.ok response, after) →
        ∀ {r' bulk' w' after'}, p.bulk? r' = some bulk' →
          p.transport.request scope bulk'.ask w' = (.ok body, after') →
            ∃ response', p.embed scope r' w' = (.ok response', after') ∧
              response'.embeddings = response.embeddings

theorem embed_counted (p : Provider τ) (scope : ScopeId) (r : EmbeddingRequest) (w : World τ) :
    p.Counted scope r w where
  inTurn family response after done := by
    unfold embed at done
    rw [family] at done
    obtain ⟨-, done⟩ := whenConfigured_eq_ok done
    obtain ⟨⟨vectors, total⟩, between, loop, done⟩ := Act.of_bind_ok done
    cases done
    exact Ollama.length_embedAll loop
  unsupported family response after done := by
    unfold embed at done
    rw [family] at done
    cases done
  atOnce atOnce done := by
    rw [embed_bulk atOnce] at done
    obtain ⟨body, requested, read⟩ := exchange_eq_ok (whenConfigured_eq_ok done).2
    obtain ⟨items, listed, number⟩ := bulk_counted atOnce read
    exact ⟨body, items, requested, listed, number⟩
  blind atOnce requested done r' bulk' w' after' other heard := by
    rw [embed_bulk atOnce] at done
    obtain ⟨configured, done⟩ := whenConfigured_eq_ok done
    obtain ⟨_, again, read⟩ := exchange_eq_ok done
    rw [requested] at again
    cases again
    obtain ⟨response', alike, same⟩ := bulk_alike atOnce other read
    refine ⟨response', ?_, same⟩
    rw [embed_bulk other, whenConfigured_eq configured, exchange_ok heard, alike]

/-- A reply with a single item. -/
def shortReply : String := "\x7b\"data\":[\x7b\"index\":0,\"embedding\":[1]\x7d]\x7d"

/-- The item of `shortReply`. -/
def onlyItem : Json := .obj [("index", .int 0), ("embedding", .arr [.int 1])]

private theorem readBytes?_shortReply :
    readBytes? (Text.encode shortReply) = some (.obj [("data", .arr [onlyItem])]) := by
  have decoded : Text.decodeDocument? (Text.encode shortReply) = some shortReply.toList := by
    decide +kernel
  rw [readBytes?_eq decoded]
  simp only [shortReply, String.reduceToList]
  rfl

private theorem numbered_onlyItem : OpenAI.Numbered 1 [onlyItem] where
  objects _ member := List.mem_singleton.mp member ▸ trivial
  indices := .refl _

/-- Two texts are sent, the reply lists one item, and one embedding comes back. -/
theorem embed_shortReply :
    let p : Provider Int := create { kind := .openai, apiKey := "k", timeout := 0 }
    let r : EmbeddingRequest := { input := ["a", "b"] }
    ∃ response after, p.embed 0 r (World.telling (Text.encode shortReply)) = (.ok response, after) ∧
      response.embeddings.length = 1 ∧ r.input.length = 2 := by
  intro p r
  have allowed : 0 ≤ p.transport.maxRetries := by decide
  obtain ⟨after, requested⟩ := World.request_telling (Text.encode shortReply)
    (OpenAI.embeddingAsk p r) allowed rfl
  obtain ⟨vectors, -, -, read⟩ :=
    OpenAI.readEmbeddings_numbered readBytes?_shortReply rfl numbered_onlyItem
  have done := (embed_openai (p := p) rfl rfl requested).trans (congrArg (·, after) read)
  refine ⟨_, after, done, ?_, rfl⟩
  have counted : p.Counted 0 r (World.telling (Text.encode shortReply)) := embed_counted p 0 r _
  obtain ⟨body, items, heard, ⟨reply, held, parts⟩, number⟩ := counted.atOnce rfl done
  have same : body = Text.encode shortReply := by
    have both := heard.symm.trans requested
    cases both
    rfl
  rw [same, readBytes?_shortReply] at held
  cases held
  cases parts
  exact number

end Provider

end MemoAssist

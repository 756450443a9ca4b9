import MemoAssist.Proofs.Provider.InTurn

namespace MemoAssist

open Json

variable {τ : Type} [TimeScale τ] {p : Provider τ} {scope : ScopeId} {w after : World τ}

namespace Provider

/-- The model that is asked for embeddings. -/
def modelFor (p : Provider τ) (r : EmbeddingRequest) : String :=
  ProviderConfig.orDefault r.model p.embeddingModel

/-- What a loop over texts makes of its reports. -/
def collected (model : String) (reports : List Ollama.Report) : EmbeddingResponse :=
  { embeddings := reports.map Ollama.Report.vector
    model := .str model
    usage := some
      { prompt := .int (Ollama.Report.total reports), total := .int (Ollama.Report.total reports) } }

/-- How the embeddings of a request are brought in the order of its texts. -/
structure Arranged (p : Provider τ) (scope : ScopeId) (r : EmbeddingRequest) (w : World τ) : Prop where
  /-- Numbered items come back in the order of their numbers, one for each text. -/
  numbered : p.kind = .openai → ∀ {body after reply items},
    p.transport.request scope (OpenAI.embeddingAsk p r) w = (.ok body, after) →
      readBytes? body = some (.obj reply) → find? "data" reply = some (.arr items) →
        OpenAI.Numbered r.input.length items → Under "usage" (OrBlank AnyObject) reply →
          ∃ response, p.embed scope r w = (.ok response, after) ∧
            response.embeddings.length = r.input.length ∧
              ∀ item ∈ items, ∀ i : Nat, OpenAI.index item = .int i →
                response.embeddings[i]? = some (OpenAI.vector item)
  /-- All of them are lost on an account of tokens that is no object, and not by a failure of
  language-model work. -/
  strayed : p.kind = .openai → ∀ {body after reply items},
    p.transport.request scope (OpenAI.embeddingAsk p r) w = (.ok body, after) →
      readBytes? body = some (.obj reply) → find? "data" reply = some (.arr items) →
        OpenAI.Numbered r.input.length items → ¬ Under "usage" (OrBlank AnyObject) reply →
          p.embed scope r w = (.error (.of .noSuchField), after)
  /-- The texts are sent in turn. The first failure is what the call comes to, and ends it. -/
  inTurn : p.kind = .ollama → ∀ {tried outcome after},
    Ollama.InTurn p scope (p.modelFor r) r.input tried w outcome after →
      p.embed scope r w = (outcome.map (collected (p.modelFor r)), after) ∧
        ∃ groups, Ollama.Recorded p (p.modelFor r) tried w outcome after groups
  whole : p.kind = .ollama → ∀ {tried reports after},
    Ollama.InTurn p scope (p.modelFor r) r.input tried w (.ok reports) after →
      tried = r.input ∧ reports.length = r.input.length
  broken : p.kind = .ollama → ∀ {tried f after},
    Ollama.InTurn p scope (p.modelFor r) r.input tried w (.error f) after →
      ∃ earlier text behind reports between, r.input = earlier ++ text :: behind ∧
        tried = earlier ++ [text] ∧
          Ollama.InTurn p scope (p.modelFor r) earlier earlier w (.ok reports) between ∧
            p.transport.request scope (Ollama.embeddingAsk p (p.modelFor r) text) between =
              (.error f, after)
  /-- There is such a run whenever the successes of the backend report what they should. -/
  total : p.kind = .ollama → Ollama.Reporting w →
    ∃ tried outcome after, Ollama.InTurn p scope (p.modelFor r) r.input tried w outcome after
  /-- It does not fail where every reply is a success and nothing ends the scope. -/
  calm : p.kind = .ollama → Ollama.Reporting w → w.Welcoming → w.time.Undisturbed scope →
    0 ≤ p.transport.maxRetries →
      ∃ reports after, Ollama.InTurn p scope (p.modelFor r) r.input r.input w (.ok reports) after ∧
        after.sent.length = w.sent.length + r.input.length

/-- What the one reply for all texts comes to. -/
theorem embed_openai {r : EmbeddingRequest} {body : Text.Bytes} (family : p.kind = .openai)
    (configured : p.isConfigured = true)
    (requested : p.transport.request scope (OpenAI.embeddingAsk p r) w = (.ok body, after)) :
    p.embed scope r w = (OpenAI.readEmbeddings body, after) := by
  unfold embed
  rw [family]
  dsimp only
  rw [whenConfigured_eq configured, exchange_ok requested]

private theorem embed_inTurn {r : EmbeddingRequest} {tried : List String}
    {outcome : Except Fault (List Ollama.Report)} (family : p.kind = .ollama)
    (configured : p.isConfigured = true)
    (run : Ollama.InTurn p scope (p.modelFor r) r.input tried w outcome after) :
    p.embed scope r w = (outcome.map (collected (p.modelFor r)), after) := by
  have all := run.embedAll 0
  unfold embed
  rw [family]
  dsimp only
  rw [whenConfigured_eq configured]
  cases outcome with
  | error f => exact Act.bind_error all
  | ok reports =>
    simp only [Int.zero_add] at all
    exact Act.bind_ok all

theorem embed_arranged (configured : p.isConfigured = true) (r : EmbeddingRequest) (w : World τ) :
    p.Arranged scope r w where
  numbered family body after reply items requested held listed numbered fine := by
    obtain ⟨vectors, number, placed, read⟩ := OpenAI.readEmbeddings_numbered held listed numbered
    obtain ⟨usage, known⟩ := OpenAI.readUsage_ok.mpr (orBlank_fieldOf.mpr fine)
    rw [known] at read
    exact ⟨_, (embed_openai family configured requested).trans (congrArg (·, after) read), number, placed⟩
  strayed family body after reply items requested held listed numbered misfit := by
    obtain ⟨vectors, -, -, read⟩ := OpenAI.readEmbeddings_numbered held listed numbered
    rw [OpenAI.readUsage_stray (mt orBlank_fieldOf.mp misfit)] at read
    exact (embed_openai family configured requested).trans (congrArg (·, after) read)
  inTurn family _ _ _ run := ⟨embed_inTurn family configured run, run.recorded⟩
  whole _ _ _ _ run := run.whole
  broken _ _ _ _ run := run.broken
  total _ reporting := Ollama.inTurn_total _ _ reporting
  calm _ reporting welcoming calm allowed := Ollama.inTurn_calm _ _ reporting welcoming calm allowed

/-- Two items in reverse order, and a number where there should be an account of tokens. -/
def oddUsage : String :=
  "\x7b\"data\":[\x7b\"index\":1,\"embedding\":[2]\x7d,\x7b\"index\":0,\"embedding\":[1]\x7d],\"usage\":5\x7d"

/-- The items of `oddUsage`. -/
def reversedItems : List Json :=
  [.obj [("index", .int 1), ("embedding", .arr [.int 2])],
   .obj [("index", .int 0), ("embedding", .arr [.int 1])]]

private theorem readBytes?_oddUsage : readBytes? (Text.encode oddUsage) =
    some (.obj [("data", .arr reversedItems), ("usage", .int 5)]) := by
  have decoded : Text.decodeDocument? (Text.encode oddUsage) = some oddUsage.toList := by decide +kernel
  rw [readBytes?_eq decoded]
  simp only [oddUsage, String.reduceToList]
  rfl

private theorem numbered_reversedItems : OpenAI.Numbered 2 reversedItems where
  objects item member := by
    rcases List.mem_pair.mp member with rfl | rfl <;> trivial
  indices := .swap _ _ _

/-- The embeddings of two texts come with an account of tokens that cannot be read, and are lost. -/
theorem embed_oddUsage :
    let p : Provider Int := create { kind := .openai, apiKey := "k", timeout := 0 }
    let w := World.telling (Text.encode oddUsage)
    p.isConfigured = true ∧
      ∃ after, p.embed 0 { input := ["a", "b"] } w = (.error (.of .noSuchField), after) := by
  intro p w
  have configured : p.isConfigured = true := rfl
  have allowed : 0 ≤ p.transport.maxRetries := by decide
  obtain ⟨after, requested⟩ := World.request_telling (Text.encode oddUsage)
    (OpenAI.embeddingAsk p { input := ["a", "b"] }) allowed rfl
  have misfit : ¬ Under "usage" (OrBlank AnyObject)
      [("data", .arr reversedItems), ("usage", .int 5)] :=
    fun fits => fits (.int 5) (by simp [find?]) rfl
  have arranged : p.Arranged 0 { input := ["a", "b"] } w := embed_arranged configured _ w
  exact ⟨configured, after,
    arranged.strayed rfl requested readBytes?_oddUsage rfl numbered_reversedItems misfit⟩

end Provider

end MemoAssist

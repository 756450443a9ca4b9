import MemoAssist.Proofs.Provider.Listings
import MemoAssist.Proofs.Wire.Heard

namespace MemoAssist

open Json World

variable {τ α β : Type}

/-- No body is too deep, and every one that holds an object holds one of a shape. -/
def AllFit (shape : Fields → Prop) (bodies : List Text.Bytes) : Prop :=
  ∀ body ∈ bodies, Fits shape body

/-- A call that hears something if it can, and comes out well exactly if the bodies it hears are of a
shape. If they are not, and it fails, then on a value that is not what it was taken for, or on a text
that is too deep. -/
def Answers (able : Prop) (texts : α → List Json) (shape : List Text.Bytes → Prop) (before : World τ)
    (ended : Except Fault α × World τ) : Prop :=
  ∃ bodies, Heard before bodies ended.2 ∧ (able → bodies ≠ []) ∧
    (Sound texts ended.1 ↔ shape bodies) ∧ Accounted ended.1

variable {able : Prop} {texts : α → List Json} {shape : List Text.Bytes → Prop} {inside : Fields → Prop}
  {w between : World τ} {ended : Except Fault α × World τ} {body : Text.Bytes}

theorem allFit_nil : AllFit inside [] := nofun

namespace Answers

theorem silent {x : Except Fault α} (sound : Sound texts x) (accounted : Accounted x)
    (unable : ¬ able) (fits : shape []) : Answers able texts shape w (x, w) :=
  ⟨[], heard_nothing, fun can => absurd can unable, iff_of_true sound fits, accounted⟩

/-- Failures of language-model work are good at any time. -/
theorem refused {f : Fault} (known : f.isA .modelWork = true) (unable : ¬ able) (fits : shape []) :
    Answers able texts shape w (.error f, w) := silent known (.inl known) unable fits

theorem single {x : Except Fault α} (heard : Heard w [body] between)
    (sound : Sound texts x ↔ shape [body]) (accounted : Accounted x) :
    Answers able texts shape w (x, between) :=
  ⟨[body], heard, fun _ => List.cons_ne_nil _ _, sound, accounted⟩

/-- What is heard first is part of what is heard. -/
theorem cons {others : Prop} {later : List Text.Bytes → Prop} (first : Heard w [body] between)
    (rest : Answers others texts later between ended)
    (whole : ∀ bodies, later bodies ↔ shape (body :: bodies)) : Answers able texts shape w ended := by
  obtain ⟨bodies, heard, -, sound, accounted⟩ := rest
  exact ⟨body :: bodies, first.cons heard, fun _ => List.cons_ne_nil _ _,
    sound.trans (whole bodies), accounted⟩

/-- To make something of a result, nothing more is heard. What is made of it may ask more of it than
that its texts are texts. -/
theorem andThenIf {made : β → List Json} {fine : α → Prop} {work : Act (World τ) α}
    (answers : Answers able texts shape w (work w)) (next : α → Except Fault β)
    (sound : ∀ a, Sound made (next a) ↔ (∀ v ∈ texts a, v.IsText) ∧ fine a)
    (accounted : ∀ a, Accounted (next a)) :
    Answers able made (fun bodies => shape bodies ∧ ∀ a, (work w).1 = .ok a → fine a) w
      ((work >>= fun a => Act.ofExcept (next a)) w) := by
  obtain ⟨bodies, heard, some, well, safe⟩ := answers
  cases done : work w with
  | mk result after =>
    rw [done] at heard well safe
    cases result with
    | error f =>
      rw [Act.bind_error done]
      exact ⟨bodies, heard, some, well.trans (and_iff_left nofun).symm, safe⟩
    | ok a =>
      rw [Act.bind_ok done, Act.ofExcept_eq]
      refine ⟨bodies, heard, some, (sound a).trans (and_congr well ?_), accounted a⟩
      exact ⟨fun found _ same => Except.ok.inj same ▸ found, fun all => all a rfl⟩

theorem andThen {made : β → List Json} {work : Act (World τ) α}
    (answers : Answers able texts shape w (work w)) (next : α → Except Fault β)
    (sound : ∀ a, Sound made (next a) ↔ ∀ v ∈ texts a, v.IsText)
    (accounted : ∀ a, Accounted (next a)) :
    Answers able made shape w ((work >>= fun a => Act.ofExcept (next a)) w) := by
  have all (a : α) : Sound made (next a) ↔ (∀ v ∈ texts a, v.IsText) ∧ True := by
    rw [sound a, and_true]
  simpa using answers.andThenIf next all accounted

end Answers

variable [TimeScale τ] {p : Provider τ} {scope : ScopeId}

namespace Provider

/-- What is made of the body of a reply can be made while it is read. -/
theorem exchange_bind (p : Provider τ) (scope : ScopeId) (ask : Ask)
    (read : Text.Bytes → Except Fault α) (next : α → Except Fault β) :
    (p.exchange scope ask read >>= fun a => Act.ofExcept (next a)) =
      p.exchange scope ask fun body => read body >>= next := by
  funext w
  cases requested : p.transport.request scope ask w with
  | mk result after =>
    cases result with
    | error f => simp only [exchange, bind, requested]
    | ok body =>
      simp only [exchange, bind, requested, Act.ofExcept_eq]
      cases read body <;> rfl

omit [TimeScale τ] in
theorem whenConfigured_bind (p : Provider τ) (work : Act (World τ) α) (next : α → Act (World τ) β) :
    (p.whenConfigured work >>= next) = p.whenConfigured (work >>= next) := by
  unfold whenConfigured
  cases p.requireConfigured <;> rfl

private theorem exchange_welcomed (welcoming : w.Welcoming) (allowed : 0 ≤ p.transport.maxRetries)
    (scope : ScopeId) (ask : Ask) (read : Text.Bytes → Except Fault α) :
    (∃ f, p.exchange scope ask read w = (.error f, w) ∧ f.isA .modelWork = true ∧
        ¬ Sendable scope w ask) ∨
      ∃ body after, p.exchange scope ask read w = (read body, after) ∧ Heard w [body] after := by
  rcases Transport.request_welcomed welcoming allowed scope ask with
    ⟨f, refused, known, unable⟩ | ⟨body, after, requested, heard⟩
  · exact .inl ⟨f, Act.bind_error refused, known, unable⟩
  · exact .inr ⟨body, after, (Act.bind_ok requested).trans (Act.ofExcept_eq _ _), heard⟩

/-- The call of a provider can send its first request, if it has one. -/
def Reaches (p : Provider τ) (scope : ScopeId) (w : World τ) (first : Option Ask) : Prop :=
  p.isConfigured = true ∧ ∃ ask, first = some ask ∧ Sendable scope w ask

theorem answers_exchange {read : Text.Bytes → Except Fault α} (decodes : Decodes texts inside read)
    (welcoming : w.Welcoming) (allowed : 0 ≤ p.transport.maxRetries) (ask : Ask) :
    Answers (∃ first, some ask = some first ∧ Sendable scope w first) texts (AllFit inside) w
      (p.exchange scope ask read w) := by
  rcases exchange_welcomed welcoming allowed scope ask read with
    ⟨f, refused, known, unable⟩ | ⟨body, after, exchanged, heard⟩
  · rw [refused]
    refine .refused known ?_ allFit_nil
    rintro ⟨_, same, able⟩
    cases same
    exact unable able
  · rw [exchanged]
    refine .single heard ?_ (decodes.accounted body)
    rw [decodes.sound body, AllFit, List.forall_mem_singleton]

omit [TimeScale τ] in
theorem answers_whenConfigured {work : Act (World τ) α} (fits : shape [])
    (answers : Answers able texts shape w (work w)) :
    Answers (p.isConfigured = true ∧ able) texts shape w (p.whenConfigured work w) := by
  rw [whenConfigured, requireConfigured]
  split
  · obtain ⟨bodies, heard, some, rest⟩ := answers
    exact ⟨bodies, heard, fun can => some can.2, rest⟩
  · rename_i unable
    exact .refused rfl (fun can => unable can.1) fits

end Provider

namespace Ollama

/-- Each of the replies has an embedding, and the tokens that they report can be added to those
before. -/
def EmbeddingsFit (tokens : Json) : List Text.Bytes → Prop
  | [] => True
  | body :: rest =>
    Fits (fun reply => EmbeddingFits reply ∧
      ∃ total, tokens.add (tokensIn reply) = .ok total ∧ EmbeddingsFit total rest) body

theorem answers_embedAll (allowed : 0 ≤ p.transport.maxRetries) (model : String)
    (inputs : List String) (tokens : Json) (welcoming : w.Welcoming) :
    Answers (∃ first, inputs.head?.map (embeddingAsk p model) = some first ∧ Sendable scope w first)
      (fun _ => []) (EmbeddingsFit tokens) w (embedAll p scope model tokens inputs w) := by
  induction inputs generalizing tokens w with
  | nil => exact .silent nofun trivial nofun trivial
  | cons text rest ih =>
    rw [embedAll]
    rcases Provider.exchange_welcomed welcoming allowed scope (embeddingAsk p model text)
      readEmbedding with ⟨f, refused, known, unable⟩ | ⟨body, after, exchanged, heard⟩
    · rw [Act.bind_error refused]
      refine .refused known ?_ trivial
      rintro ⟨_, same, able⟩
      cases same
      exact unable able
    · have read := reading body
      cases result : readEmbedding body with
      | error f =>
        rw [result] at read exchanged
        rw [Act.bind_error exchanged]
        refine .single heard ?_ ?_
        · cases read with
          | unreadable known any => exact iff_of_true known (any _)
          | tooDeep deep => exact iff_of_false nofun fun fits => by cases deep.symm.trans fits.shallow
          | stray held stray misfit =>
            rw [EmbeddingsFit, fits_iff held]
            exact iff_of_false (by simp [stray.not_modelWork]) fun h => misfit h.1
        · cases read with
          | unreadable known any => exact .inl known
          | tooDeep deep => exact .inr (.inr rfl)
          | stray held stray misfit => exact .inr (.inl stray)
      | ok reply =>
        rw [result] at read exchanged
        rw [Act.bind_ok exchanged]
        cases read with
        | @vector reply vector held fits =>
          dsimp only
          have strays : Strays (tokens.add (tokensIn reply)) := strays_add
          cases added : tokens.add (tokensIn reply) with
          | error f =>
            rw [added] at strays
            rw [Act.bind_error (Act.ofExcept_eq _ _)]
            refine .single heard ?_ (.inr (.inl strays))
            rw [EmbeddingsFit, fits_iff held]
            exact iff_of_false (by simp [strays.not_modelWork]) (by simp [added])
          | ok total =>
            rw [Act.bind_ok (Act.ofExcept_eq _ _)]
            refine .cons heard ((ih total (welcoming.heard heard)).andThen
              (fun found => .ok (vector :: found.1, found.2)) ?_ fun _ => trivial) ?_
            · simp
            · intro bodies
              rw [EmbeddingsFit, fits_iff held]
              simp [fits, added]

end Ollama

end MemoAssist

import MemoAssist.Proofs.Provider.Calls
import MemoAssist.Proofs.Provider.InTurn
import Mathlib.Data.List.TakeWhile

/-! Looking a model up among those that a server has installed. Names without a tag stand for the
latest of their model, and two names are the same model if they stand for one name with a tag. -/
namespace MemoAssist

open Json

namespace Ollama

/-- The name with its tag, which is the latest unless it says otherwise. -/
def fullName (name : String) : String := if ':' ∈ name.toList then name else name ++ ":latest"

def SameModel (name other : String) : Prop := fullName name = fullName other

instance (name other : String) : Decidable (SameModel name other) :=
  inferInstanceAs (Decidable (fullName name = fullName other))

/-- The name without its tag. -/
def bare (name : String) : String := String.ofList (name.toList.takeWhile (· ≠ ':'))

/-- A name is taken for a model if they are the same. But whatever tag the model is asked for with, the
name without a tag is taken for it too, and so is the model with a second tag. -/
def TakenFor (model name : String) : Prop :=
  SameModel name model ∨ SameModel name (bare model) ∨ name = model ++ ":latest"

variable {name model : String}

private theorem colon_mem_latest (name : String) : ':' ∈ (name ++ ":latest").toList := by
  rw [String.toList_append, List.mem_append]
  exact .inr (by decide)

private theorem fullName_untagged (untagged : ':' ∉ name.toList) : fullName name = name ++ ":latest" :=
  if_neg untagged

theorem fullName_tagged (tagged : ':' ∈ name.toList) : fullName name = name := if_pos tagged

/-- A name without a tag is the same model as itself and as the latest of its model. -/
theorem sameModel_untagged (untagged : ':' ∉ model.toList) :
    SameModel name model ↔ name = model ∨ name = model ++ ":latest" := by
  rw [SameModel, fullName_untagged untagged]
  by_cases tagged : ':' ∈ name.toList
  · rw [fullName_tagged tagged]
    exact ⟨.inr, fun either => either.resolve_left fun same => untagged (same ▸ tagged)⟩
  · rw [fullName_untagged tagged, String.append_left_inj]
    exact ⟨.inl, fun either => either.resolve_right fun same => tagged (same ▸ colon_mem_latest model)⟩

private theorem bare_untagged (name : String) : ':' ∉ (bare name).toList := by
  rw [bare, String.toList_ofList]
  intro member
  simpa using List.mem_takeWhile_imp member

private theorem plain_of_untagged (untagged : ':' ∉ name.toList) :
    ∀ c ∈ name.toList, decide (c ≠ ':') = true := fun _ member =>
  decide_eq_true fun same => untagged (same ▸ member)

private theorem bare_of_untagged (untagged : ':' ∉ name.toList) : bare name = name := by
  rw [bare, List.takeWhile_eq_self_iff.mpr (plain_of_untagged untagged), String.ofList_toList]

private theorem bare_latest (untagged : ':' ∉ name.toList) : bare (name ++ ":latest") = name := by
  rw [bare, String.toList_append, List.takeWhile_append_of_pos (plain_of_untagged untagged)]
  change String.ofList (name.toList ++ []) = name
  rw [List.append_nil, String.ofList_toList]

/-- The names that are looked for are those that are taken for the model. -/
theorem mem_installedAs : name ∈ installedAs model ↔ TakenFor model name := by
  have listed : installedAs model = [model, model ++ ":latest", bare model, bare model ++ ":latest"] := rfl
  simp only [listed, List.mem_cons, List.not_mem_nil, or_false, TakenFor,
    sameModel_untagged (bare_untagged model)]
  constructor
  · rintro (rfl | latest | either)
    · exact .inl rfl
    · exact .inr (.inr latest)
    · exact .inr (.inl either)
  · rintro (same | either | latest)
    · by_cases tagged : ':' ∈ model.toList
      · by_cases alsoTagged : ':' ∈ name.toList
        · rw [SameModel, fullName_tagged tagged, fullName_tagged alsoTagged] at same
          exact .inl same
        · rw [SameModel, fullName_tagged tagged, fullName_untagged alsoTagged] at same
          exact .inr (.inr (.inl (by rw [← same, bare_latest alsoTagged])))
      · rcases (sameModel_untagged tagged).mp same with here | latest
        · exact .inl here
        · exact .inr (.inl latest)
    · exact .inr (.inr either)
    · exact .inr (.inl latest)

/-- For a name without a tag only the same model is taken for it. -/
theorem takenFor_untagged (untagged : ':' ∉ model.toList) :
    TakenFor model name ↔ SameModel name model := by
  rw [TakenFor, bare_of_untagged untagged, ← or_assoc, or_self, or_iff_left_iff_imp]
  exact fun latest => (sameModel_untagged untagged).mpr (.inr latest)

/-- The models of a reply are listed under these names. -/
def Lists (names : List String) (body : Text.Bytes) : Prop :=
  ∃ reply entries, readBytes? body = some (.obj reply) ∧
    Provider.fieldOr reply "models" (.arr []) = .arr entries ∧
      List.Forall₂ (fun entry name => entry.field "name" (.str "") = .ok (.str name)) entries names

variable {names : List String} {body : Text.Bytes}

theorem Lists.read (lists : Lists names body) : readModels body = .ok (names.map .str) := by
  obtain ⟨reply, entries, held, models, named⟩ := lists
  have parts : (Provider.fieldOr reply "models" (.arr [])).parts = .ok entries := congrArg parts models
  rw [readModels, bind_of_ok (readObject_of_held _ held), bind_of_ok parts]
  exact mapM_eq_ok.mpr (List.forall₂_map_right_iff.mpr named)

private theorem lists_names (model : String) (names : List String) :
    lists model (names.map .str) = .ok ((installedAs model).any names.contains) := by
  have texts : (names.map Json.str).mapM memberText? = .ok (names.map some) := by
    refine mapM_eq_ok.mpr (List.forall₂_map_left_iff.mpr (List.forall₂_map_right_iff.mpr ?_))
    exact List.forall₂_same.mpr fun _ _ => rfl
  rw [lists, bind_of_ok texts, List.filterMap_map]
  simp only [Function.comp_def, id, List.filterMap_some]
  rfl

/-- What the answer to the question for a model says of the names that are installed. -/
structure Told (names : List String) (model : String) (answer : Bool) : Prop where
  exactly : answer = true ↔ ∃ name ∈ names, TakenFor model name
  /-- A model that is installed is found. -/
  found : (∃ name ∈ names, SameModel name model) → answer = true
  /-- What is found is installed, if a name without a tag is asked for. -/
  untagged : ':' ∉ model.toList → (answer = true ↔ ∃ name ∈ names, SameModel name model)

private theorem told_any (names : List String) (model : String) :
    Told names model ((installedAs model).any names.contains) := by
  have exactly : (installedAs model).any names.contains = true ↔ ∃ name ∈ names, TakenFor model name := by
    simp only [List.any_eq_true, List.contains_iff_mem, mem_installedAs, and_comm]
  refine ⟨exactly, fun ⟨name, member, same⟩ => exactly.mpr ⟨name, member, .inl same⟩, fun untagged => ?_⟩
  simp only [exactly, takenFor_untagged untagged]

end Ollama

variable {τ : Type} [TimeScale τ] {p : Provider τ} {scope : ScopeId} {w after : World τ}

namespace Provider

theorem hasModel_told {body : Text.Bytes} {names : List String} (family : p.kind = .ollama)
    (configured : p.isConfigured = true)
    (requested : p.transport.request scope (Ollama.modelsAsk p) w = (.ok body, after))
    (lists : Ollama.Lists names body) (model : String) :
    ∃ answer, p.hasModel scope model w = (.ok answer, after) ∧ Ollama.Told names model answer := by
  refine ⟨_, ?_, Ollama.told_any names model⟩
  rw [hasModel_eq family, whenConfigured_eq configured, exchange_ok requested,
    bind_of_ok lists.read, Ollama.lists_names]

/-- A single model is installed, the latest of its kind. -/
def latestOnly : String := "\x7b\"models\":[\x7b\"name\":\"llama3.2:latest\"\x7d]\x7d"

private theorem readBytes?_latestOnly : readBytes? (Text.encode latestOnly) =
    some (.obj [("models", .arr [.obj [("name", .str "llama3.2:latest")]])]) := by
  have decoded : Text.decodeDocument? (Text.encode latestOnly) = some latestOnly.toList := by
    decide +kernel
  rw [readBytes?_eq decoded]
  simp only [latestOnly, String.reduceToList]
  rfl

/-- A small model is said to be installed, although only the latest one is. -/
theorem hasModel_otherTag :
    let p : Provider Int := create { kind := .ollama, timeout := 0 }
    let w := World.telling (Text.encode latestOnly)
    Ollama.Lists ["llama3.2:latest"] (Text.encode latestOnly) ∧
      (∃ after, p.hasModel 0 "llama3.2:1b" w = (.ok true, after)) ∧
        ¬ ∃ name ∈ ["llama3.2:latest"], Ollama.SameModel name "llama3.2:1b" := by
  intro p w
  have allowed : 0 ≤ p.transport.maxRetries := by decide
  have lists : Ollama.Lists ["llama3.2:latest"] (Text.encode latestOnly) :=
    ⟨_, _, readBytes?_latestOnly, rfl, .cons rfl .nil⟩
  obtain ⟨after, requested⟩ := World.request_telling (Text.encode latestOnly)
    (Ollama.modelsAsk p) allowed rfl
  have configured : p.isConfigured = true := by decide
  obtain ⟨answer, answered, told⟩ := hasModel_told rfl configured requested lists "llama3.2:1b"
  have taken : Ollama.TakenFor "llama3.2:1b" "llama3.2:latest" := .inr (.inl (by decide))
  have yes : answer = true := told.exactly.mpr ⟨_, List.mem_singleton.mpr rfl, taken⟩
  refine ⟨lists, ⟨after, yes ▸ answered⟩, ?_⟩
  rintro ⟨name, member, same⟩
  obtain rfl := List.mem_singleton.mp member
  exact absurd same (by decide)

end Provider

end MemoAssist

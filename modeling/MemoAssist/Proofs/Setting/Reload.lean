import MemoAssist.Proofs.Registry.Loading
import MemoAssist.Proofs.Text.Trimming

/-! Settings that are loaded, read back and loaded again. What is read back has the defaults filled in,
and to fill them in once more changes nothing, unless there is an address of nothing but slashes. -/
namespace MemoAssist

variable {τ : Type} [TimeScale τ]

/-- An address of which nothing is left without the slashes at its end. -/
def OnlySlashes (url : String) : Prop := url ≠ "" ∧ ∀ c ∈ url.toList, c = '/'

instance (url : String) : Decidable (OnlySlashes url) :=
  decidable_of_iff (url ≠ "" ∧ url.toList.all (· = '/') = true)
    (and_congr_right' (by simp only [List.all_eq_true, decide_eq_true_eq]))

namespace Provider

open ProviderConfig

theorem orDefault_again (s other : String) :
    orDefault (orDefault s other) other = orDefault s other := by
  unfold orDefault
  split <;> simp_all

theorem orDefault_empty (s : String) : orDefault s "" = s := by
  unfold orDefault
  split <;> simp_all

private theorem withoutSlashes_again (url : String) :
    withoutSlashes (withoutSlashes url) = withoutSlashes url := by
  simp only [withoutSlashes, String.toList_ofList, Text.dropEndWhile_eq_rdropWhile,
    List.rdropWhile_idempotent]

private theorem withoutSlashes_ne {url : String} (set : url ≠ "") (fits : ¬ OnlySlashes url) :
    withoutSlashes url ≠ "" := by
  intro nothing
  have slashes := List.rdropWhile_eq_nil_iff.mp (String.ofList_injective nothing)
  exact fits ⟨set, fun c member => of_decide_eq_true (slashes c member)⟩

/-- An address that was put together from a set-up and its family's usual one stays as it is. -/
theorem address_again {url : String} (usual : String) (left : withoutSlashes usual ≠ "")
    (fits : ¬ OnlySlashes url) :
    withoutSlashes (orDefault (withoutSlashes (orDefault url usual)) usual) =
      withoutSlashes (orDefault url usual) := by
  have set : withoutSlashes (orDefault url usual) ≠ "" := by
    rw [orDefault]
    split
    · exact left
    · next some => exact withoutSlashes_ne some fits
  conv_lhs => rw [orDefault, if_neg set]
  exact withoutSlashes_again _

/-- A provider made from the set-up that is read back from a provider is that provider. -/
theorem create_setup {setup : ProviderSetting} (kind : ProviderKind)
    (url : ¬ OnlySlashes setup.baseUrl) (host : ¬ OnlySlashes setup.host) :
    create ((create (setup.config kind) : Provider τ).setup.config kind) =
      (create (setup.config kind) : Provider τ) := by
  cases kind with
  | openai =>
    simp only [Provider.setup, ProviderSetting.config, usual, create, orDefault_empty,
      orDefault_again, address_again openaiUrl (by decide) url]
  | anthropic =>
    simp only [Provider.setup, ProviderSetting.config, usual, create, orDefault_empty,
      orDefault_again, address_again anthropicUrl (by decide) url]
  | gemini =>
    simp only [Provider.setup, ProviderSetting.config, usual, create, orDefault_empty,
      orDefault_again, address_again geminiUrl (by decide) url]
  | ollama =>
    simp only [Provider.setup, ProviderSetting.config, usual, create, orDefault_empty,
      orDefault_again, address_again ollamaHost (by decide) host]

@[simp] theorem kind_config (setup : ProviderSetting) (kind : ProviderKind) :
    (setup.config kind : ProviderConfig τ).kind = kind := by
  cases kind <;> rfl

end Provider

namespace Setting

/-- No address of a family that is set up consists of slashes only. -/
def Addressed (s : Setting) : Prop :=
  ∀ kind setup, s.setup? kind = some setup → ¬ OnlySlashes setup.baseUrl ∧ ¬ OnlySlashes setup.host

variable (τ) (s : Setting)

/-- The provider for a family that is set up. -/
def provider? (kind : ProviderKind) : Option (Provider τ) :=
  (s.setup? kind).map fun setup => Provider.create (setup.config kind)

/-- The registry before any preference is looked at. -/
def registered : Registry (Provider τ) :=
  { entries := s.providers.map Registry.entry
    active := ((s.providers : List (Provider τ)).find? Provider.isConfigured).map Provider.kind }

/-- The registry that settings make of an empty one. -/
def loaded : Registry (Provider τ) := (Registry.load id s {}).2

variable {τ s} {kind : ProviderKind} {p : Provider τ}

theorem kind_provider? (made : s.provider? τ kind = some p) : p.kind = kind := by
  obtain ⟨setup, -, rfl⟩ := Option.map_eq_some_iff.mp made
  rw [Provider.kind_create, Provider.kind_config]

theorem mem_providers : p ∈ s.providers ↔ s.provider? τ p.kind = some p := by
  rw [providers, List.mem_filterMap]
  constructor
  · rintro ⟨kind, -, made⟩
    rwa [kind_provider? made]
  · intro made
    exact ⟨p.kind, by cases p.kind <;> decide, made⟩

variable (τ s)

/-- The families that are set up, each once. -/
theorem kinds_providers : (s.providers : List (Provider τ)).map Provider.kind =
    ProviderKind.all.filter fun kind => (s.setup? kind).isSome := by
  rw [providers, List.map_filterMap, ← List.filterMap_eq_filter]
  congr 1
  funext kind
  cases set : s.setup? kind <;> simp [Option.guard, set]

private theorem distinct_providers : ((s.providers : List (Provider τ)).map Provider.kind).Nodup := by
  rw [kinds_providers]
  exact List.Nodup.filter _ (by decide)

private theorem loaded_eq : s.loaded τ = ((s.registered τ).prefer s.provider : List (Event τ) × _).2 := by
  have all : (Registry.registerAll s.providers {} : List (Event τ) × Registry (Provider τ)).2 =
      s.registered τ := Registry.registerAll_empty (distinct_providers τ s)
  rw [loaded, Registry.load, List.map_id, ← all]

theorem find?_registered (kind : ProviderKind) :
    (s.registered τ).find? kind = s.provider? τ kind := by
  cases made : s.provider? τ kind with
  | none =>
    rw [Registry.find?_eq_none_iff, Registry.kinds, registered, List.map_map, List.mem_map]
    rintro ⟨p, member, same⟩
    have there := mem_providers.mp member
    rw [show p.kind = kind from same, made] at there
    cases there
  | some p =>
    obtain rfl := kind_provider? made
    exact Registry.find?_registered (distinct_providers τ s) (mem_providers.mpr made)

/-- What was made active on its own account can be used. -/
theorem registered_offers (kind : ProviderKind) (active : (s.registered τ).active = some kind) :
    (s.registered τ).offers kind = true := by
  obtain ⟨p, first, rfl⟩ := Option.map_eq_some_iff.mp active
  have made := mem_providers.mp (List.mem_of_find?_eq_some first)
  rw [Registry.offers, find?_registered, made, Option.any_some]
  exact List.find?_some first

/-- Only what can be used is ever active, and a preference adds and removes no provider. -/
theorem loaded_cases : ∃ active, s.loaded τ = { s.registered τ with active } ∧
    ∀ kind, active = some kind → (s.registered τ).offers kind = true := by
  have outcome : ((s.registered τ).prefer s.provider : List (Event τ) × _).2 = _ ∨ _ :=
    Registry.prefer_cases s.provider (s.registered τ)
  rw [loaded_eq]
  rcases outcome with same | ⟨kind, offered, chosen⟩
  · exact ⟨_, same, registered_offers τ s⟩
  · refine ⟨some kind, chosen, ?_⟩
    intro other same
    rwa [← Option.some.inj same]

private theorem kinds_loaded :
    (s.loaded τ).kinds = ProviderKind.all.filter fun kind => (s.setup? kind).isSome := by
  obtain ⟨active, result, -⟩ := loaded_cases τ s
  rw [result, ← kinds_providers τ s, Registry.kinds, registered, List.map_map]
  rfl

theorem find?_loaded (kind : ProviderKind) : (s.loaded τ).find? kind = s.provider? τ kind := by
  obtain ⟨active, result, -⟩ := loaded_cases τ s
  rw [result]
  exact find?_registered τ s kind

private theorem loaded_offers (kind : ProviderKind) (active : (s.loaded τ).active = some kind) :
    (s.loaded τ).offers kind = true := by
  obtain ⟨chosen, result, offered⟩ := loaded_cases τ s
  rw [result] at active ⊢
  exact offered kind active

end Setting

/-- The settings that a registry is read back as. -/
def Registry.kept (r : Registry (Provider τ)) : Setting := r.snapshot (some ∘ Provider.setup)

omit [TimeScale τ] in
private theorem Registry.setup?_kept (r : Registry (Provider τ)) (kind : ProviderKind) :
    r.kept.setup? kind = (r.find? kind).map Provider.setup := by
  have each : r.kept.setup? kind = (r.find? kind).bind (some ∘ Provider.setup) := by
    cases kind <;> rfl
  rw [each, Option.map_eq_bind]

namespace Setting

variable {s : Setting}

private theorem provider_kept (s : Setting) : (s.loaded τ).kept.provider = (s.loaded τ).active := by
  change (s.loaded τ).active.filter (fun kind => ((s.loaded τ).find? kind).isSome) = _
  cases active : (s.loaded τ).active with
  | none => rfl
  | some kind =>
    have offered := loaded_offers τ s kind active
    rw [Registry.offers] at offered
    refine Option.filter_some_pos ?_
    cases found : (s.loaded τ).find? kind with
    | none =>
      rw [found] at offered
      cases offered
    | some p => rfl

/-- What is read back sets the same providers up. -/
theorem provider?_kept (addressed : s.Addressed) (kind : ProviderKind) :
    (s.loaded τ).kept.provider? τ kind = s.provider? τ kind := by
  rw [provider?, Registry.setup?_kept, find?_loaded, provider?]
  cases set : s.setup? kind with
  | none => rfl
  | some setup =>
    obtain ⟨url, host⟩ := addressed kind setup set
    exact congrArg some (Provider.create_setup kind url host)

private theorem providers_kept (addressed : s.Addressed) :
    (s.loaded τ).kept.providers = (s.providers : List (Provider τ)) := by
  rw [providers, providers]
  congr 1
  funext kind
  exact provider?_kept addressed kind

private theorem loaded_kept (addressed : s.Addressed) : (s.loaded τ).kept.loaded τ = s.loaded τ := by
  have same : (s.loaded τ).kept.registered τ = s.registered τ := by
    rw [registered, registered, providers_kept addressed]
  rw [loaded_eq, same, provider_kept, loaded_eq]
  exact Registry.prefer_again (registered_offers τ s) s.provider

variable (τ)

/-- Settings make a provider of every family that is set up, and what they come to is also what is read
back of it comes to. -/
structure Stable (s : Setting) : Prop where
  kinds : (s.loaded τ).kinds = ProviderKind.all.filter fun kind => (s.setup? kind).isSome
  providers : ∀ kind, (s.loaded τ).find? kind = s.provider? τ kind
  active : ∀ kind, (s.loaded τ).active = some kind → (s.loaded τ).offers kind = true
  /-- The two registries are the same in everything. -/
  again : (s.loaded τ).kept.loaded τ = s.loaded τ
  kept : ((s.loaded τ).kept.loaded τ).kept = (s.loaded τ).kept

theorem stable (s : Setting) (addressed : s.Addressed) : s.Stable τ where
  kinds := kinds_loaded τ s
  providers := find?_loaded τ s
  active := loaded_offers τ s
  again := loaded_kept addressed
  kept := congrArg Registry.kept (loaded_kept addressed)

/-- Settings that prefer a family which is not set up. -/
def preferringGemini : Setting :=
  { provider := some .gemini
    openai := some { apiKey := "sk-1", baseUrl := "https://proxy.test/v1//" }
    ollama := some { defaultModel := "mistral" } }

/-- They come to the local family. -/
theorem stable_preferringGemini : preferringGemini.Addressed ∧ preferringGemini.Stable Int ∧
    (preferringGemini.loaded Int).active = some .ollama := by
  have addressed : preferringGemini.Addressed := by
    intro kind setup set
    cases kind with
    | openai | ollama =>
      obtain rfl := Option.some.inj set
      decide
    | anthropic | gemini => cases set
  exact ⟨addressed, stable Int preferringGemini addressed, by decide⟩

end Setting

end MemoAssist

import MemoAssist.Proofs.Setting.Reload

/-! Which family is active once settings were loaded into a registry, whatever was in it before. A
provider that is registered may become active on its own account, before the preference is looked
at; so what is active in the end depends on both. -/
namespace MemoAssist

variable {τ : Type} [TimeScale τ] {P : Type} [Registrable P]

/-- Providers that are made of settings count in a registry as what they are. -/
structure Recognized (make : Provider τ → P) : Prop where
  kind : ∀ p, Registrable.kind (make p) = p.kind
  isConfigured : ∀ p, Registrable.isConfigured (make p) = p.isConfigured

namespace ProviderSetting

/-- Does a set-up make a provider that is configured? It needs a key; a local one needs an address,
of which something is left without the slashes at its end. -/
def isReady (setup : ProviderSetting) : ProviderKind → Bool
  | .ollama =>
    Provider.withoutSlashes (ProviderConfig.orDefault setup.host ProviderConfig.ollamaHost) ≠ ""
  | _ => setup.apiKey ≠ ""

private theorem isConfigured_create (setup : ProviderSetting) (kind : ProviderKind) :
    (Provider.create (setup.config kind) : Provider τ).isConfigured = setup.isReady kind := by
  cases kind with
  | openai | anthropic | gemini =>
    simp only [Provider.create, config, ProviderConfig.usual, Provider.isConfigured, isReady,
      Provider.orDefault_empty]
  | ollama =>
    simp only [Provider.create, config, ProviderConfig.usual, Provider.isConfigured, isReady,
      Provider.orDefault_again]

end ProviderSetting

namespace Setting

variable {s : Setting} {r : Registry P} {kind : ProviderKind} {make : Provider τ → P}

/-- Is a family set up, and ready as it is? -/
def readies (s : Setting) (kind : ProviderKind) : Bool :=
  (s.setup? kind).any fun setup => setup.isReady kind

/-- Can a family be used, after these settings were loaded? If it is set up, this replaces the
provider that was there. -/
def usable (s : Setting) (r : Registry P) (kind : ProviderKind) : Bool :=
  match s.setup? kind with
  | some setup => setup.isReady kind
  | none => r.offers kind

/-- The registry with a provider of every family that is set up. -/
def filled (make : Provider τ → P) (s : Setting) (r : Registry P) : Registry P :=
  (s.providers.map make).foldl (fun r p => r.register p) r

private theorem load_eq (make : Provider τ → P) (s : Setting) (r : Registry P) : r.load make s =
    ((r.registerAll (s.providers.map make)).1 ++ ((s.filled make r).prefer s.provider).1,
      ((s.filled make r).prefer s.provider : List (Event τ) × Registry P).2) := by
  have registered : (r.registerAll (s.providers.map make) : List (Event τ) × Registry P).2 =
      s.filled make r := Registry.registerAll_snd ..
  rw [Registry.load, ← registered]

private theorem any_provider? (kind : ProviderKind) :
    (s.provider? τ kind).any Provider.isConfigured = s.readies kind := by
  rw [provider?, readies]
  cases s.setup? kind with
  | none => rfl
  | some setup => exact ProviderSetting.isConfigured_create setup kind

/-! ### What is registered -/

/-- The provider that was made for a family is the one of its kind. -/
theorem find?_made (recognized : Recognized make) (kind : ProviderKind) :
    ((s.providers.map make).reverse.find? fun p => Registrable.kind p = kind) =
      (s.provider? τ kind).map make := by
  have only : ∀ p ∈ (s.providers.map make).reverse, Registrable.kind p = kind →
      (s.provider? τ kind).map make = some p := by
    intro p member own
    obtain ⟨made, listed, rfl⟩ := List.mem_map.mp (List.mem_reverse.mp member)
    rw [recognized.kind] at own
    rw [← own, mem_providers.mp listed, Option.map_some]
  cases found : (s.providers.map make).reverse.find? fun p => Registrable.kind p = kind with
  | some p =>
    have own : Registrable.kind p = kind := by simpa using List.find?_some found
    exact (only p (List.mem_of_find?_eq_some found) own).symm
  | none =>
    symm
    rw [Option.map_eq_none_iff]
    cases made : s.provider? τ kind with
    | none => rfl
    | some p =>
      obtain rfl := kind_provider? made
      have listed : make p ∈ (s.providers.map make).reverse :=
        List.mem_reverse.mpr (List.mem_map_of_mem (mem_providers.mpr made))
      have absent := List.find?_eq_none.mp found _ listed
      exact absurd (decide_eq_true (recognized.kind p)) absent

private theorem find?_filled (recognized : Recognized make) (kind : ProviderKind) :
    (s.filled make r).find? kind = ((s.provider? τ kind).map make).or (r.find? kind) := by
  rw [filled, Registry.find?_foldl_register, find?_made recognized]

private theorem offers_filled (recognized : Recognized make) (kind : ProviderKind) :
    (s.filled make r).offers kind = s.usable r kind := by
  rw [Registry.offers, find?_filled recognized, usable, provider?]
  cases s.setup? kind with
  | none => rfl
  | some setup =>
    rw [Option.map_some, Option.map_some, Option.some_or, Option.any_some, recognized.isConfigured]
    exact ProviderSetting.isConfigured_create setup kind

/-! ### What is active -/

/-- What is active before any preference is looked at. -/
theorem active_filled (recognized : Recognized make) :
    (s.filled make r).active = r.active.or (ProviderKind.all.find? s.readies) := by
  have kinds : ∀ p : Provider τ, (Registrable.kind ∘ make) p = p.kind := recognized.kind
  have configured : (Registrable.isConfigured ∘ make : Provider τ → Bool) = Provider.isConfigured :=
    funext recognized.isConfigured
  have readies : (fun kind => (s.provider? τ kind).any Provider.isConfigured) = s.readies :=
    funext any_provider?
  rw [filled, Registry.active_foldl_register, List.find?_map, configured, Option.map_map]
  congr 1
  change ((ProviderKind.all.filterMap (s.provider? τ)).find? _).map _ = _
  rw [List.find?_filterMap, readies]
  cases first : ProviderKind.all.find? s.readies with
  | none => rfl
  | some kind =>
    have ready := List.find?_some first
    rw [← any_provider? (τ := τ)] at ready
    cases made : s.provider? τ kind with
    | none =>
      rw [made] at ready
      cases ready
    | some p =>
      rw [Option.bind_some, made, Option.map_some, kinds, kind_provider? made]

/-- A family that is set up and ready can be used. -/
theorem usable_of_readies (ready : s.readies kind = true) : s.usable r kind = true := by
  rw [readies] at ready
  rw [usable]
  cases set : s.setup? kind with
  | none =>
    rw [set] at ready
    cases ready
  | some setup =>
    rw [set, Option.any_some] at ready
    exact ready

/-- Where no family can be used, none became active on its own account. -/
theorem active_filled_of_unusable (recognized : Recognized make)
    (unusable : ∀ kind, s.usable r kind = false) : (s.filled make r).active = r.active := by
  have none : ProviderKind.all.find? s.readies = .none := by
    rw [List.find?_eq_none]
    intro kind _ ready
    have used : s.usable r kind = true := usable_of_readies ready
    rw [unusable kind] at used
    cases used
  rw [active_filled recognized, none, Option.or_none]

end Setting

/-! ### What is reported -/

namespace Registry

variable {r : Registry P}

private theorem fallback?_eq_none : r.fallback? = none ↔ ∀ kind, r.offers kind = false := by
  rw [fallback?, List.find?_eq_none]
  constructor
  · intro absent kind
    have listed : kind ∈ fallbackOrder := by cases kind <;> decide
    simpa using absent kind listed
  · intro absent kind _
    simp [absent kind]

omit [TimeScale τ] in
/-- Whatever is reported while providers are registered is reported of one of them. -/
theorem mem_registerAll {event : Event τ} (providers : List P) :
    event ∈ (r.registerAll providers).1 →
      ∃ (before : Registry P) (p : P), event ∈ before.registering p := by
  have grown : ∀ (providers : List P) (events : List (Event τ)) (r : Registry P), event ∈
      (providers.foldl (fun sofar p => (sofar.1 ++ sofar.2.registering p, sofar.2.register p))
        (events, r)).1 →
          event ∈ events ∨ ∃ (before : Registry P) (p : P), event ∈ before.registering p := by
    intro providers
    induction providers with
    | nil => exact fun _ _ => .inl
    | cons p rest ih =>
      intro events r member
      rcases ih _ _ member with there | later
      · exact (List.mem_append.mp there).imp_right fun here => ⟨r, p, here⟩
      · exact .inr later
  intro member
  rcases grown providers [] r member with there | found
  · cases there
  · exact found

omit [TimeScale τ] in
/-- Nothing is amiss when a provider is registered. -/
theorem noFallback_registerAll {reason : String} (providers : List P) :
    (.noFallback reason : Event τ) ∉ (r.registerAll providers).1 := by
  intro member
  obtain ⟨before, p, reported⟩ := mem_registerAll providers member
  rw [registering] at reported
  split at reported <;> simp at reported

omit [TimeScale τ] in
/-- That nothing can be used is reported where something was preferred. -/
theorem noFallback_prefer (wish : Option ProviderKind) (r : Registry P) :
    (∃ reason, (.noFallback reason : Event τ) ∈ (r.prefer wish).1) ↔
      wish.isSome ∧ ∀ kind, r.offers kind = false := by
  cases wish with
  | none => simp [prefer]
  | some kind =>
    rw [prefer, activateOrFallback, activating, wish?_word]
    by_cases offered : r.offers kind = true
    · simp only [offered, if_true, Option.some_or, List.mem_singleton, reduceCtorEq, exists_false,
        Option.isSome_some, true_and, false_iff, not_forall]
      exact ⟨kind, by simp [offered]⟩
    · rw [if_neg offered, Option.none_or]
      cases fallback : r.fallback? with
      | none => simp [fallback?_eq_none.mp fallback]
      | some other =>
        have used : r.offers other = true := List.find?_some fallback
        simp only [List.mem_cons, reduceCtorEq, List.not_mem_nil, or_self, exists_false,
          Option.isSome_some, true_and, false_iff, not_forall]
        exact ⟨other, by simp [used]⟩

end Registry

/-! ### Activation -/

namespace Setting

/-- What settings make of a registry that they are loaded into. -/
structure Activation (make : Provider τ → P) (s : Setting) (r : Registry P)
    (loaded : List (Event τ) × Registry P) : Prop where
  /-- A family that is set up has a new provider, and the others keep theirs. -/
  registered : ∀ kind, loaded.2.find? kind = ((s.provider? τ kind).map make).or (r.find? kind)
  usable : ∀ kind, loaded.2.offers kind = s.usable r kind
  /-- The preferred family is active, or else the first that can be used, or what was before. -/
  preferred : ∀ kind, s.provider = some kind → loaded.2.active =
    if s.usable r kind then some kind
    else ([.ollama, .openai, .anthropic, .gemini].find? (s.usable r)).or r.active
  /-- Without a preference, what was active stays so; or else the first that is set up and ready
  is. -/
  free : s.provider = none → loaded.2.active =
    r.active.or ([.openai, .anthropic, .gemini, .ollama].find? s.readies)
  /-- That no family can be used is no failure; it is reported, where one was preferred. -/
  reported : (∃ reason, .noFallback reason ∈ loaded.1) ↔
    s.provider.isSome ∧ ∀ kind, s.usable r kind = false

variable {make : Provider τ → P}

/-- Settings can be loaded into any registry, and what is active then is determined by what is set
up, what was there, and the preference. -/
theorem activation (recognized : Recognized make) (s : Setting) (r : Registry P) :
    s.Activation make r (r.load make s) := by
  have offers : (s.filled make r).offers = s.usable r := funext (offers_filled recognized)
  rw [load_eq]
  refine ⟨?_, ?_, ?_, ?_, ?_⟩
  · intro kind
    rw [Registry.find?_prefer, find?_filled recognized]
  · intro kind
    rw [Registry.offers, Registry.find?_prefer, ← offers, Registry.offers]
  · intro kind wish
    have order : (s.filled make r).fallback? =
        [.ollama, .openai, .anthropic, .gemini].find? (s.usable r) := by
      rw [← offers]
      rfl
    rw [wish, Registry.active_prefer, offers, ← order]
    split
    · rfl
    · cases fallback : (s.filled make r).fallback? with
      | some other => rfl
      | none =>
        have unusable := Registry.fallback?_eq_none.mp fallback
        rw [offers] at unusable
        rw [active_filled_of_unusable recognized unusable]
  · intro wish
    rw [wish]
    exact active_filled recognized
  · simp only [List.mem_append, Registry.noFallback_registerAll, false_or]
    rw [Registry.noFallback_prefer, offers]

/-- A family that was active gives way to one that is preferred and cannot be used itself. -/
theorem activation_of_fallback :
    let r : Registry (Provider Int) :=
      Registry.register (Provider.create { ProviderConfig.usual .gemini with apiKey := "g-1" }) {}
    let s : Setting := { provider := some .anthropic, openai := some { apiKey := "sk-1" } }
    Recognized (id : Provider Int → Provider Int) ∧ s.Activation id r (r.load id s) ∧
      r.active = some .gemini ∧ (r.load id s : List (Event Int) × _).2.active = some .openai := by
  intro r s
  have recognized : Recognized (id : Provider Int → Provider Int) := ⟨fun _ => rfl, fun _ => rfl⟩
  exact ⟨recognized, activation recognized s r, rfl, rfl⟩

end Setting

end MemoAssist

import MemoAssist.Proofs.Registry.Laws
import MemoAssist.Setting.Apply

namespace MemoAssist.Registry

variable {P : Type} [Registrable P] {r : Registry P} {kind : ProviderKind} {τ : Type}

/-- The entry that a provider is registered by. -/
def entry (p : P) : ProviderKind × P := (Registrable.kind p, p)

theorem registerAll_snd (providers : List P) (r : Registry P) :
    (r.registerAll providers : List (Event τ) × Registry P).2 =
      providers.foldl (fun r p => r.register p) r := by
  rw [registerAll]
  generalize ([] : List (Event τ)) = events
  induction providers generalizing events r with
  | nil => rfl
  | cons p rest ih => exact ih ..

/-- Providers of families that are not there yet go to the end, and the first that is configured becomes
active if none is. -/
theorem foldl_register {providers : List P} :
    ∀ {r : Registry P}, (r.kinds ++ providers.map Registrable.kind).Nodup →
      providers.foldl (fun r p => r.register p) r =
        { entries := r.entries ++ providers.map entry
          active := r.active.or
            ((providers.find? Registrable.isConfigured).map Registrable.kind) } := by
  induction providers with
  | nil =>
    intro r distinct
    simp
  | cons p rest ih =>
    intro r distinct
    have fresh : Registrable.kind p ∉ r.kinds := fun there =>
      (List.nodup_append.mp distinct).2.2 _ there _ (List.mem_cons_self ..) rfl
    have registered : r.register p =
        { entries := r.entries ++ [entry p]
          active := if r.selects p then some (Registrable.kind p) else r.active } := by
      rw [register, puts.put_new fresh]
      rfl
    rw [List.foldl_cons, ih (by rw [registered]; simpa [kinds, entry] using distinct), registered]
    congr 1
    · simp
    · cases active : r.active with
      | some kind => simp [selects, active]
      | none => cases configured : Registrable.isConfigured p <;> simp [selects, active, configured]

/-- What is active after many were registered: what was, or else the first that is configured. -/
theorem active_foldl_register {providers : List P} {r : Registry P} :
    (providers.foldl (fun r p => r.register p) r).active =
      r.active.or ((providers.find? Registrable.isConfigured).map Registrable.kind) := by
  induction providers generalizing r with
  | nil => simp
  | cons p rest ih =>
    rw [List.foldl_cons, ih]
    cases active : r.active with
    | some kind => simp [register, selects, active]
    | none =>
      cases configured : Registrable.isConfigured p <;> simp [register, selects, active, configured]

/-- The provider of a family after many were registered: the last of them, or the one before. -/
theorem find?_foldl_register {providers : List P} {r : Registry P} (kind : ProviderKind) :
    (providers.foldl (fun r p => r.register p) r).find? kind =
      (providers.reverse.find? fun p => Registrable.kind p = kind).or (r.find? kind) := by
  induction providers generalizing r with
  | nil => rfl
  | cons p rest ih =>
    have one : (r.register p).find? kind =
        ([p].find? fun p => Registrable.kind p = kind).or (r.find? kind) := by
      rw [register, find?_put]
      by_cases own : kind = Registrable.kind p
      · simp [own]
      · simp [own, Ne.symm own]
    rw [List.foldl_cons, ih, one, List.reverse_cons, List.find?_append, Option.or_assoc]

/-- Registering providers of different families in an empty registry. -/
theorem registerAll_empty {providers : List P} (distinct : (providers.map Registrable.kind).Nodup) :
    (registerAll providers {} : List (Event τ) × Registry P).2 =
      { entries := providers.map entry
        active := (providers.find? Registrable.isConfigured).map Registrable.kind } := by
  rw [registerAll_snd, foldl_register (by exact distinct)]
  rfl

theorem find?_registered {providers : List P} (distinct : (providers.map Registrable.kind).Nodup)
    {p : P} (member : p ∈ providers) {active : Option ProviderKind} :
    find? ⟨providers.map entry, active⟩ (Registrable.kind p) = some p := by
  have keys : (providers.map entry).map Prod.fst = providers.map Registrable.kind := by
    rw [List.map_map]
    rfl
  have listed : entry p ∈ providers.map entry := List.mem_map_of_mem member
  have found := find?_entry (keys ▸ distinct) listed
  exact congrArg (Option.map Prod.snd) found

/-! ### The preferred family -/

theorem wish?_word : r.wish? kind.word = if r.offers kind then some kind else none := by
  rw [wish?, ProviderKind.ofWord?_word]
  exact Option.filter_some ..

/-- A family that can be used is activated when it is preferred. -/
theorem prefer_offered (offered : r.offers kind = true) :
    (r.prefer (some kind) : List (Event τ) × Registry P).2 = { r with active := some kind } := by
  rw [prefer, activateOrFallback, wish?_word, if_pos offered]
  rfl

/-- What is active once a family was preferred: this one, or else the first that can be used, or
else what was active before. -/
theorem active_prefer (kind : ProviderKind) (r : Registry P) :
    (r.prefer (some kind) : List (Event τ) × Registry P).2.active =
      if r.offers kind then some kind else r.fallback?.or r.active := by
  rw [prefer, activateOrFallback, wish?_word]
  by_cases offered : r.offers kind = true
  · simp [offered]
  · cases fallback : r.fallback? <;> simp [offered]

/-- A preference makes a family active that can be used, or leaves everything as it is. -/
theorem prefer_cases (wish : Option ProviderKind) (r : Registry P) :
    (r.prefer wish : List (Event τ) × Registry P).2 = r ∨ ∃ kind, r.offers kind = true ∧
      (r.prefer wish : List (Event τ) × Registry P).2 = { r with active := some kind } := by
  cases wish with
  | none => exact .inl rfl
  | some kind =>
    by_cases offered : r.offers kind = true
    · exact .inr ⟨kind, offered, prefer_offered offered⟩
    · rw [prefer, activateOrFallback, wish?_word, if_neg offered, Option.none_or]
      cases fallback : r.fallback? with
      | none => exact .inl rfl
      | some other => exact .inr ⟨other, List.find?_some fallback, rfl⟩

/-- A preference adds and removes no provider. -/
theorem find?_prefer (wish : Option ProviderKind) (r : Registry P) (kind : ProviderKind) :
    (r.prefer wish : List (Event τ) × Registry P).2.find? kind = r.find? kind := by
  have outcome : (r.prefer wish : List (Event τ) × Registry P).2 = r ∨ _ := prefer_cases wish r
  rcases outcome with same | ⟨chosen, -, activated⟩
  · rw [same]
  · rw [activated]
    rfl

/-- To prefer what a preference came to changes nothing about it. -/
theorem prefer_again (ready : ∀ kind, r.active = some kind → r.offers kind = true)
    (wish : Option ProviderKind) :
    (r.prefer (r.prefer wish : List (Event τ) × Registry P).2.active :
      List (Event τ) × Registry P).2 = (r.prefer wish : List (Event τ) × Registry P).2 := by
  have outcome : (r.prefer wish : List (Event τ) × Registry P).2 = r ∨ _ := prefer_cases wish r
  rcases outcome with same | ⟨kind, offered, chosen⟩
  · rw [same]
    cases active : r.active with
    | none => rfl
    | some kind =>
      rw [prefer_offered (ready kind active), ← active]
  · rw [chosen, prefer_offered offered]

end MemoAssist.Registry

import MemoAssist.Proofs.Registry.History

namespace MemoAssist

namespace Registry

variable {P : Type} [Registrable P] {r : Registry P} {kind : ProviderKind}

private theorem kinds_statuses (r : Registry P) : r.statuses.map ProviderStatus.kind = r.kinds := by
  rw [statuses, List.map_map]
  rfl

/-- At most one entry of a list is marked as active, and it is that of the active family. -/
theorem marked_statuses (distinct : r.kinds.Nodup)
    (registered : ∀ kind, r.active = some kind → kind ∈ r.kinds) :
    (r.statuses.filter ProviderStatus.active).map ProviderStatus.kind = r.active.toList := by
  have marked : (r.statuses.filter ProviderStatus.active).map ProviderStatus.kind =
      r.kinds.filter fun kind => r.active = some kind := by
    rw [kinds, statuses, List.filter_map, List.filter_map, List.map_map]
    rfl
  rw [marked]
  cases active : r.active with
  | none => exact List.filter_eq_nil_iff.mpr nofun
  | some kind =>
    have own : (fun other => decide (some kind = some other)) = fun other => other == kind := by
      funext other
      by_cases same : other = kind
      · simp [same]
      · simp [same, Ne.symm same]
    rw [own, List.filter_beq, distinct.count, if_pos (registered kind active)]
    rfl

/-- A list shows the provider that is registered for a family as it is. -/
theorem statuses_shown (distinct : r.kinds.Nodup) {status : ProviderStatus}
    (listed : status ∈ r.statuses) : ∃ p, r.find? status.kind = some p ∧
      status = ⟨status.kind, Registrable.title p, Registrable.isConfigured p,
        r.active = some status.kind, Registrable.defaultModel p⟩ := by
  obtain ⟨entry, member, rfl⟩ := List.mem_map.mp listed
  refine ⟨entry.2, ?_, rfl⟩
  rw [find?, find?_entry distinct member]
  rfl

end Registry

namespace Service

variable {P : Type} {family : P → ProviderKind} {s : Service P}

private theorem distinct_after (visits : List (Visit P)) : (after family visits).registry.kinds.Nodup := by
  refine after_induction (motive := fun _ r => r.kinds.Nodup) List.nodup_nil ?_ visits
  intro past v r ih done
  cases done with
  | registered now p => exact Registry.puts.nodup_put ih
  | activated registered other activates => exact ih
  | nothing other idle => exact ih

/-- No call that fails leaves the registry other than it was. -/
theorem run_failed {now : Aspect P} {call : ServiceCall P} {f : Fault}
    (failed : (run family now s call).1 = .error f) :
    (run family now s call).2.registry = s.registry := by
  cases call with
  | register p =>
    cases p with
    | none => rfl
    | some p => cases failed
  | activate word =>
    rcases activate_cases s.registry word with ⟨kind, known, registered⟩ | ⟨f, refused⟩
    · rw [run_activate known registered] at failed
      cases failed
    · rw [run_activate_refused refused]
  | ask | named | current | active | list | anyConfigured => rfl

/-- The active provider is asked, once, if it is configured. -/
theorem run_ask_ready {now : Aspect P} {q : Inquiry} {p : P}
    (current : s.registry.current? = some p) (ready : now.isConfigured p = true) :
    run family now s (.ask q) =
      ((now.respond p q).map .response, { s with asked := s.asked ++ [(p, q)] }) := by
  let := registrable family now
  have answered : s.registry.answer (asking now q) = _ := Registry.answer_ready current ready
  rw [run, answered]
  rfl

private theorem run_ask_unready {now : Aspect P} {q : Inquiry}
    (unready : ∀ p, s.registry.current? = some p → now.isConfigured p = false) :
    run family now s (.ask q) = (.error (.of .notConfigured), s) := by
  let := registrable family now
  have refused : s.registry.answer (asking now q) = _ := Registry.answer_unready unready
  rw [run, refused]
  rfl

/-- What holds of a service after any visits, and of the visit that comes next. -/
structure Orderly (family : P → ProviderKind) (visits : List (Visit P)) (s : Service P) : Prop where
  registered : ∀ kind, s.registry.active = some kind → kind ∈ s.registry.kinds
  /-- Once a family is active one always is. -/
  stays : ∀ earlier, earlier <+: visits → (after family earlier).registry.active ≠ none →
    s.registry.active ≠ none
  first : NeverActivated family visits → s.registry.active =
    ((registrations visits).find? fun r => r.1.isConfigured r.2).map fun r => family r.2
  /-- A family has one provider, the one that was registered last. -/
  single : s.registry.kinds.Nodup
  latest : ∀ kind, s.registry.find? kind =
    ((registrations visits).reverse.find? fun r => family r.2 = kind).map Prod.snd
  listed : ∀ now, ∃ all, run family now s .list = (.ok (.statuses all), s) ∧
    all.map ProviderStatus.kind = ((registrations visits).map fun r => family r.2).eraseDups ∧
    (all.filter ProviderStatus.active).map ProviderStatus.kind = s.registry.active.toList ∧
    ∀ status ∈ all, ∃ p, s.registry.find? status.kind = some p ∧
      status = ⟨status.kind, now.title p, now.isConfigured p, s.registry.active = some status.kind,
        now.defaultModel p⟩
  activated : ∀ now kind, kind ∈ s.registry.kinds → run family now s (.activate kind.word) =
    (.ok .nothing, { s with registry := { s.registry with active := some kind } })
  found : ∀ now kind, kind ∈ s.registry.kinds → ∃ p, s.registry.find? kind = some p ∧
    run family now s (.named kind.word) = (.ok (.provider (some p)), s)
  /-- What is not registered can neither be activated nor found. -/
  missing : ∀ now kind, kind ∉ s.registry.kinds →
    run family now s (.activate kind.word) = (.error (Registry.notRegistered kind.word), s) ∧
      run family now s (.named kind.word) = (.error (Registry.notRegistered kind.word), s)
  unknown : ∀ now word, ProviderKind.ofWord? word = none →
    run family now s (.activate word) = (.error (.of .unknownName), s) ∧
      run family now s (.named word) = (.error (Registry.notRegistered word), s)
  failed : ∀ now call f, (run family now s call).1 = .error f →
    (run family now s call).2.registry = s.registry
  /-- A request goes to the provider of the active family, if it is configured by then. -/
  answered : ∀ now q kind p, s.registry.active = some kind → s.registry.find? kind = some p →
    now.isConfigured p = true → run family now s (.ask q) =
      ((now.respond p q).map .response, { s with asked := s.asked ++ [(p, q)] })
  /-- It goes to nobody otherwise. -/
  unanswered : ∀ now q, (∀ kind p, s.registry.active = some kind → s.registry.find? kind = some p →
      now.isConfigured p = false) →
    run family now s (.ask q) = (.error (.of .notConfigured), s)

theorem orderly (family : P → ProviderKind) (visits : List (Visit P)) :
    Orderly family visits (after family visits) where
  registered := active_registered visits
  stays _ := active_stays
  first := active_first visits
  single := distinct_after visits
  latest kind := find?_after kind visits
  listed now := by
    let := registrable family now
    have distinct : (after family visits).registry.kinds.Nodup := distinct_after visits
    refine ⟨(after family visits).registry.statuses, rfl, ?_, ?_, ?_⟩
    · rw [Registry.kinds_statuses, kinds_after]
    · exact Registry.marked_statuses distinct (active_registered visits)
    · intro status listed
      exact Registry.statuses_shown distinct listed
  activated now kind registered := run_activate (ProviderKind.ofWord?_word kind) registered
  found now kind registered := by
    obtain ⟨p, found⟩ := Option.isSome_iff_exists.mp (Registry.find?_isSome_iff.mpr registered)
    refine ⟨p, found, ?_⟩
    rw [run, Registry.named_known (ProviderKind.ofWord?_word kind) found]
    rfl
  missing now kind missing := by
    have known := ProviderKind.ofWord?_word kind
    constructor
    · apply run_activate_refused
      rw [Registry.activate_known known, Registry.setActive_missing missing]
    · have absent : ∀ other, ProviderKind.ofWord? kind.word = some other →
          other ∉ (after family visits).registry.kinds := by
        intro other same
        rwa [← Option.some.inj (known.symm.trans same)]
      rw [run, Registry.named_missing absent]
      rfl
  unknown now word unknown := by
    constructor
    · exact run_activate_refused (Registry.activate_unknown unknown)
    · have absent : ∀ kind, ProviderKind.ofWord? word = some kind →
          kind ∉ (after family visits).registry.kinds := by
        intro kind known
        rw [unknown] at known
        cases known
      rw [run, Registry.named_missing absent]
      rfl
  failed now call f := run_failed
  answered now q kind p active found := by
    apply run_ask_ready
    rw [Registry.current?, active, Option.bind_some, found]
  unanswered now q unready := by
    apply run_ask_unready
    intro p current
    obtain ⟨kind, active, found⟩ := Option.bind_eq_some_iff.mp current
    exact unready kind p active found

end Service

end MemoAssist

import MemoAssist.Proofs.Provider.Discretion
import MemoAssist.Proofs.Registry.Laws
import Mathlib.Data.List.Induction

/-! Registries in use. Providers come and go, one of them or another is made active, and requests and
questions come in, in any order; what a registry holds then, and whom it asks, follows from which
providers were registered and what was activated. -/
namespace MemoAssist

/-- How providers present themselves at one moment, and what they would respond. All of it may change
from one moment to the next. -/
structure Aspect (P : Type) where
  title : P → String
  isConfigured : P → Bool
  defaultModel : P → String
  respond : P → Inquiry → Except Fault Response

inductive ServiceCall (P : Type) where
  | register (p : Option P)
  | activate (word : String)
  | ask (q : Inquiry)
  | named (word : String)
  | current
  | active
  | list
  | anyConfigured

/-- What a call hands out. -/
inductive Handed (P : Type) where
  | nothing
  | response (r : Response)
  | provider (p : Option P)
  | family (kind : Option ProviderKind)
  | statuses (all : List ProviderStatus)
  | truth (b : Bool)

/-- A call, and how the providers are while it is made. -/
abbrev Visit (P : Type) := Aspect P × ServiceCall P

/-- A registry in use, and a record of the requests that it passed on and to whom. -/
structure Service (P : Type) where
  registry : Registry P := {}
  asked : List (P × Inquiry) := []

namespace Service

-- What family a provider is of never changes.
variable {P : Type} (family : P → ProviderKind)

@[reducible] def registrable (now : Aspect P) : Registrable P where
  kind := family
  title := now.title
  isConfigured := now.isConfigured
  defaultModel := now.defaultModel

/-- A provider is asked, which is put on record. -/
def asking (now : Aspect P) (q : Inquiry) (p : P) : Act (List (P × Inquiry)) Response :=
  fun asked => (now.respond p q, asked ++ [(p, q)])

/-- What a call comes to, and what it leaves behind. -/
def run (now : Aspect P) (s : Service P) : ServiceCall P → Except Fault (Handed P) × Service P :=
  letI := registrable family now
  fun
  | .register none => (.error Registry.noProvider, s)
  | .register (some p) => (.ok .nothing, { s with registry := s.registry.register p })
  | .activate word =>
    match s.registry.activate word with
    | .ok registry => (.ok .nothing, { s with registry })
    | .error f => (.error f, s)
  | .ask q =>
    let (outcome, asked) := s.registry.answer (asking now q) s.asked
    (outcome.map .response, { s with asked })
  | .named word => ((s.registry.named word).map fun p => .provider (some p), s)
  | .current => (.ok (.provider s.registry.current?), s)
  | .active => (.ok (.family s.registry.active), s)
  | .list => (.ok (.statuses s.registry.statuses), s)
  | .anyConfigured => (.ok (.truth s.registry.anyConfigured), s)

def visit (s : Service P) (v : Visit P) : Service P := (run family v.1 s v.2).2

def after (visits : List (Visit P)) : Service P := visits.foldl (visit family) {}

/-- The provider that a visit registers, and how it is then. -/
def registration? : Visit P → Option (Aspect P × P)
  | (now, .register (some p)) => some (now, p)
  | _ => none

def registrations (visits : List (Visit P)) : List (Aspect P × P) := visits.filterMap registration?

/-- Does a visit make a family active on demand? -/
def Activates (s : Service P) (v : Visit P) : Prop :=
  ∃ word, v.2 = .activate word ∧ ∃ handed, (run family v.1 s v.2).1 = .ok handed

/-- What a visit does to the registry. -/
inductive Effect (s : Service P) : Visit P → Registry P → Prop
  | registered (now : Aspect P) (p : P) :
    Effect s (now, .register (some p))
      { entries := Registry.put (family p) p s.registry.entries
        active := if s.registry.active.isNone && now.isConfigured p then some (family p)
          else s.registry.active }
  | activated {v : Visit P} {kind : ProviderKind} (registered : kind ∈ s.registry.kinds)
      (other : registration? v = none) (activates : Activates family s v) :
    Effect s v { s.registry with active := some kind }
  | nothing {v : Visit P} (other : registration? v = none) (idle : ¬ Activates family s v) :
    Effect s v s.registry

variable {family} {s : Service P} {now : Aspect P} {word : String} {kind : ProviderKind} {p : P}

/-! ### Single calls -/

theorem run_activate (known : ProviderKind.ofWord? word = some kind)
    (registered : kind ∈ s.registry.kinds) : run family now s (.activate word) =
      (.ok .nothing, { s with registry := { s.registry with active := some kind } }) := by
  rw [run, Registry.activate_known known, Registry.setActive_registered registered]

theorem run_activate_refused {f : Fault} (refused : s.registry.activate word = .error f) :
    run family now s (.activate word) = (.error f, s) := by
  rw [run, refused]

/-- A family is activated if it is registered, and otherwise nothing happens. -/
theorem activate_cases (r : Registry P) (word : String) :
    (∃ kind, ProviderKind.ofWord? word = some kind ∧ kind ∈ r.kinds) ∨
      ∃ f, r.activate word = .error f := by
  cases known : ProviderKind.ofWord? word with
  | none => exact .inr ⟨_, Registry.activate_unknown known⟩
  | some kind =>
    by_cases registered : kind ∈ r.kinds
    · exact .inl ⟨kind, rfl, registered⟩
    · rw [Registry.activate_known known]
      exact .inr ⟨_, Registry.setActive_missing registered⟩

private theorem effect (s : Service P) (v : Visit P) : Effect family s v (visit family s v).registry := by
  obtain ⟨now, call⟩ := v
  cases call with
  | register p =>
    cases p with
    | none =>
      refine .nothing rfl ?_
      rintro ⟨word, other, -⟩
      cases other
    | some p => exact .registered now p
  | activate word =>
    rcases activate_cases s.registry word with ⟨kind, known, registered⟩ | ⟨f, refused⟩
    · have done : run family now s (.activate word) = _ := run_activate known registered
      rw [visit, done]
      exact .activated registered rfl ⟨word, rfl, .nothing, by rw [done]⟩
    · have failed : run family now s (.activate word) = _ := run_activate_refused refused
      rw [visit, failed]
      refine .nothing rfl ?_
      rintro ⟨other, -, handed, done⟩
      rw [failed] at done
      cases done
  | ask | named | current | active | list | anyConfigured =>
    refine .nothing rfl ?_
    rintro ⟨word, other, -⟩
    cases other

/-! ### Whole histories -/

variable {visits : List (Visit P)}

private theorem after_concat (visits : List (Visit P)) (v : Visit P) :
    after family (visits ++ [v]) = visit family (after family visits) v := by
  rw [after, List.foldl_append]
  rfl

theorem registrations_concat (visits : List (Visit P)) (v : Visit P) :
    registrations (visits ++ [v]) = registrations visits ++ (registration? v).toList := by
  rw [registrations, List.filterMap_append]
  congr 1

theorem registrations_other {v : Visit P} (other : registration? v = none) (past : List (Visit P)) :
    registrations (past ++ [v]) = registrations past := by
  rw [registrations_concat, other, Option.toList_none, List.append_nil]

/-- What holds of the registry at the start, and is kept by whatever a visit may do to it, holds after
any visits. -/
theorem after_induction {motive : List (Visit P) → Registry P → Prop} (start : motive [] {})
    (step : ∀ past v r, motive past (after family past).registry →
      Effect family (after family past) v r → motive (past ++ [v]) r) (visits : List (Visit P)) :
    motive visits (after family visits).registry := by
  induction visits using List.reverseRecOn with
  | nil => exact start
  | append_singleton past v ih =>
    rw [after_concat]
    exact step past v _ ih (effect _ v)

private theorem eraseDups_concat {α : Type} [DecidableEq α] (all : List α) (a : α) :
    (all ++ [a]).eraseDups = if a ∈ all.eraseDups then all.eraseDups else all.eraseDups ++ [a] := by
  rw [List.eraseDups_append]
  by_cases member : a ∈ all
  · simp [List.removeAll, member]
  · simp [List.removeAll, member, List.eraseDups_cons]

theorem kinds_after (visits : List (Visit P)) : (after family visits).registry.kinds =
    ((registrations visits).map fun r => family r.2).eraseDups := by
  refine after_induction (motive := fun visits r => r.kinds =
    ((registrations visits).map fun r => family r.2).eraseDups) rfl ?_ visits
  intro past v r ih done
  cases done with
  | registered now p =>
    rw [Registry.kinds_put, ih, registrations_concat, registration?, Option.toList_some,
      List.map_append, List.map_singleton, eraseDups_concat]
  | activated registered other activates =>
    rw [registrations_other other]
    exact ih
  | nothing other idle =>
    rw [registrations_other other]
    exact ih

theorem find?_after (kind : ProviderKind) (visits : List (Visit P)) :
    (after family visits).registry.find? kind =
      ((registrations visits).reverse.find? fun r => family r.2 = kind).map Prod.snd := by
  refine after_induction (motive := fun visits r => r.find? kind =
    ((registrations visits).reverse.find? fun r => family r.2 = kind).map Prod.snd) rfl ?_ visits
  intro past v r ih done
  cases done with
  | registered now p =>
    rw [Registry.find?_put, ih, registrations_concat, registration?, Option.toList_some,
      List.reverse_append, List.reverse_singleton, List.singleton_append, List.find?_cons]
    by_cases same : kind = family p
    · simp [same]
    · simp [same, Ne.symm same]
  | activated registered other activates =>
    rw [registrations_other other]
    exact ih
  | nothing other idle =>
    rw [registrations_other other]
    exact ih

theorem active_registered (visits : List (Visit P)) :
    ∀ kind, (after family visits).registry.active = some kind →
      kind ∈ (after family visits).registry.kinds := by
  refine after_induction (motive := fun _ r => ∀ kind, r.active = some kind → kind ∈ r.kinds)
    nofun ?_ visits
  intro past v r ih done
  cases done with
  | registered now p =>
    intro kind active
    rw [Registry.kinds_put]
    dsimp only at active
    split at active
    · cases active
      split
      · assumption
      · exact List.mem_append_right _ (List.mem_singleton_self _)
    · split
      · exact ih kind active
      · exact List.mem_append_left _ (ih kind active)
  | activated registered other activates =>
    intro kind active
    exact Option.some.inj active ▸ registered
  | nothing other idle => exact ih

theorem Effect.stays {v : Visit P} {r : Registry P} (done : Effect family s v r)
    (some : s.registry.active ≠ none) : r.active ≠ none := by
  cases done with
  | registered now p =>
    dsimp only
    split
    · exact Option.some_ne_none _
    · exact some
  | activated registered other activates => exact Option.some_ne_none _
  | nothing other idle => exact some

/-- Once there is an active family there is one for good. -/
theorem active_stays {earlier : List (Visit P)} (before : earlier <+: visits)
    (some : (after family earlier).registry.active ≠ none) :
    (after family visits).registry.active ≠ none := by
  induction visits using List.reverseRecOn with
  | nil => rwa [← List.prefix_nil.mp before]
  | append_singleton past v ih =>
    rcases List.prefix_concat_iff.mp before with rfl | before
    · exact some
    · rw [after_concat]
      exact (effect _ v).stays (ih before)

/-- No visit made a family active on demand. -/
def NeverActivated (family : P → ProviderKind) (visits : List (Visit P)) : Prop :=
  ∀ earlier v, earlier ++ [v] <+: visits → ¬ Activates family (after family earlier) v

/-- Until a family is activated, the active one is that of the first provider that was configured when
it was registered. -/
theorem active_first (visits : List (Visit P)) : NeverActivated family visits →
    (after family visits).registry.active =
      ((registrations visits).find? fun r => r.1.isConfigured r.2).map fun r => family r.2 := by
  refine after_induction (motive := fun visits r => NeverActivated family visits → r.active =
    ((registrations visits).find? fun r => r.1.isConfigured r.2).map fun r => family r.2)
    (fun _ => rfl) ?_ visits
  intro past v r ih done never
  have before : NeverActivated family past := fun earlier other prior =>
    never earlier other (prior.trans (List.prefix_append past [v]))
  cases done with
  | registered now p =>
    rw [registrations_concat, registration?, Option.toList_some, List.find?_append, ih before]
    cases (registrations past).find? fun r => r.1.isConfigured r.2 with
    | none => cases configured : now.isConfigured p <;> simp [configured]
    | some first => rfl
  | activated registered other activates =>
    exact absurd activates (never past v (List.prefix_refl _))
  | nothing other idle =>
    rw [registrations_other other]
    exact ih before

end Service

end MemoAssist

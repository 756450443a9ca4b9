import MemoAssist.Vault

namespace MemoAssist

/-- What can be done to a slot. -/
inductive Deed where
  | stored (key : String)
  | updated (key : String)
  | used
  | deleted

structure Change where
  slot : Slot
  deed : Deed
  now : Instant

/-- A key that is held, with its dates. -/
structure Keeping where
  key : String
  created : Instant
  updated : Instant
  lastUsed : Option Instant

/-- What is kept of a key. -/
def Keeping.record (slot : Slot) (blob : String) (keeping : Keeping) : StoredKey :=
  { mark := ApiKey.mark keeping.key
    kind := slot.kind
    blob
    masked := ApiKey.masked keeping.key
    created := keeping.created
    updated := keeping.updated
    lastUsed := keeping.lastUsed
    user := slot.user }

/-- What a slot holds once something is done to it, from what it held. -/
def Deed.applied (now : Instant) : Deed → Option Keeping → Option Keeping
  | .stored key, _ => some { key, created := now, updated := now, lastUsed := none }
  | .updated key, before => before.map fun keeping => { keeping with key, updated := now }
  | .used, before => before.map fun keeping => { keeping with lastUsed := some now }
  | .deleted, _ => none

/-- A deed dates a key anew, or the key has the dates that it had, except for those of the deed. -/
theorem Deed.applied_eq_some {now : Instant} {deed : Deed} {before : Option Keeping}
    {keeping : Keeping} (holds : deed.applied now before = some keeping) :
    (keeping.created = now ∧ keeping.updated = now ∧ keeping.lastUsed = none) ∨
      ∃ earlier, before = some earlier ∧ keeping.created = earlier.created ∧
        (keeping.updated = now ∨ keeping.updated = earlier.updated) ∧
          (keeping.lastUsed = some now ∨ keeping.lastUsed = earlier.lastUsed) := by
  cases deed with
  | stored key =>
    cases holds
    exact .inl ⟨rfl, rfl, rfl⟩
  | updated key =>
    obtain ⟨earlier, held, rfl⟩ := Option.map_eq_some_iff.mp holds
    exact .inr ⟨earlier, held, rfl, .inl rfl, .inr rfl⟩
  | used =>
    obtain ⟨earlier, held, rfl⟩ := Option.map_eq_some_iff.mp holds
    exact .inr ⟨earlier, held, rfl, .inr rfl, .inl rfl⟩
  | deleted => cases holds

abbrev VaultLedger := List Change

namespace VaultLedger

variable {ledger : VaultLedger} {change : Change} {slot : Slot} {keeping : Keeping}

/-- What a slot holds: only what was done to the slot itself counts. -/
def held (slot : Slot) : VaultLedger → Option Keeping
  | [] => none
  | change :: past =>
    if change.slot = slot then change.deed.applied change.now (held slot past) else held slot past

/-- The slots that hold something, in the order in which they were filled. -/
def standing : VaultLedger → List Slot
  | [] => []
  | change :: past =>
    match change.deed with
    | .stored _ => standing past ++ [change.slot]
    | .deleted => (standing past).filter fun slot => slot ≠ change.slot
    | .updated _ | .used => standing past

/-- No change is earlier than those before it. -/
def Ordered (ledger : VaultLedger) : Prop :=
  ledger.Pairwise fun late early => early.now.micros ≤ late.now.micros

theorem mem_standing_iff : slot ∈ ledger.standing ↔ (ledger.held slot).isSome = true := by
  induction ledger with
  | nil => simp [standing, held]
  | cons change past ih =>
    obtain ⟨place, deed, now⟩ := change
    by_cases same : place = slot
    · subst same
      cases deed <;> simp [standing, held, Deed.applied, ih]
    · cases deed <;> simp [standing, held, same, ih, Ne.symm same]

/-- A key that is held came into its slot with a change. -/
theorem created_mem (holds : ledger.held slot = some keeping) :
    ∃ change ∈ ledger, change.now = keeping.created := by
  induction ledger generalizing keeping with
  | nil => cases holds
  | cons change past ih =>
    have before {earlier : Keeping} (held : VaultLedger.held slot past = some earlier) :
        ∃ other ∈ change :: past, other.now = earlier.created := by
      obtain ⟨other, member, same⟩ := ih held
      exact ⟨other, List.mem_cons_of_mem _ member, same⟩
    rw [held] at holds
    split at holds
    · rcases Deed.applied_eq_some holds with ⟨fresh, -, -⟩ | ⟨earlier, held, kept, -, -⟩
      · exact ⟨change, List.mem_cons_self, fresh.symm⟩
      · exact kept ▸ before held
    · exact before holds

/-- A key was not updated or used before it was stored. -/
theorem dated (ordered : ledger.Ordered) (holds : ledger.held slot = some keeping) :
    keeping.created.micros ≤ keeping.updated.micros ∧
      ∀ used, keeping.lastUsed = some used → keeping.created.micros ≤ used.micros := by
  induction ledger generalizing keeping with
  | nil => cases holds
  | cons change past ih =>
    obtain ⟨later, ordered⟩ := List.pairwise_cons.mp ordered
    rw [held] at holds
    split at holds
    · rcases Deed.applied_eq_some holds with
        ⟨fresh, updated, used⟩ | ⟨earlier, held, kept, updated, used⟩
      · rw [fresh, updated, used]
        exact ⟨Int.le_refl _, nofun⟩
      · obtain ⟨other, member, same⟩ := created_mem held
        have since : earlier.created.micros ≤ change.now.micros := same ▸ later other member
        obtain ⟨own, uses⟩ := ih ordered held
        rw [kept]
        refine ⟨?_, ?_⟩
        · rcases updated with now | before
          · exact now ▸ since
          · exact before ▸ own
        · intro moment last
          rcases used with now | before
          · exact Option.some.inj (now.symm.trans last) ▸ since
          · exact uses moment (before.symm.trans last)
    · exact ih ordered holds

end VaultLedger

end MemoAssist

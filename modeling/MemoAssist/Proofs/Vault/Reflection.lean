import Mathlib.Data.List.Basic
import MemoAssist.Proofs.Vault.Ledger
import MemoAssist.Proofs.Vault.Slots

namespace MemoAssist

open ProviderKind (ofWord?)

namespace Vault

/-! ### What the operations do -/

section

variable {v : Vault} {user : Int} {word key old : String} {kind : ProviderKind} {now : Instant}
  {e : Entropy} {kept : StoredKey} {keeping : Keeping} {f : Fault}

private theorem store_ok (known : ofWord? word = some kind) (passes : ApiKey.check (some kind) key = .ok ())
    (vacant : v.find? ⟨user, kind⟩ = none) :
    v.store now user word key e =
      let record := Keeping.record ⟨user, kind⟩ (v.cipher.encrypt key e).1 ⟨key, now, now, none⟩
      .ok (record, v.insert ⟨user, kind⟩ record, (v.cipher.encrypt key e).2) := by
  rw [store, known, passes, slotOf_known known]
  simp only [bind, Except.bind, vacant]
  rfl

theorem store_taken (known : ofWord? word = some kind)
    (passes : ApiKey.check (some kind) key = .ok ()) (taken : v.find? ⟨user, kind⟩ = some kept) :
    v.store now user word key e = .error (.of .keyExists) := by
  rw [store, known, passes, slotOf_known known]
  simp only [bind, Except.bind, taken]
  rfl

theorem store_refused (refused : ApiKey.check (ofWord? word) key = .error f) :
    v.store now user word key e = .error f := by
  rw [store, refused]
  rfl

theorem store_unknown (unknown : ofWord? word = none) :
    ∃ f, v.store now user word key e = .error f := by
  cases checked : ApiKey.check (ofWord? word) key with
  | error f => exact ⟨f, store_refused checked⟩
  | ok =>
    rw [store, checked, slotOf_unknown unknown]
    exact ⟨_, rfl⟩

private theorem update_ok (known : ofWord? word = some kind)
    (passes : ApiKey.check (some kind) key = .ok ())
    (found : v.find? ⟨user, kind⟩ = some (keeping.record ⟨user, kind⟩ old)) :
    v.update now user word key e =
      let record := Keeping.record ⟨user, kind⟩ (v.cipher.encrypt key e).1
        { keeping with key, updated := now }
      .ok (record, v.insert ⟨user, kind⟩ record, (v.cipher.encrypt key e).2) := by
  rw [update, known, passes, lookUp_found known found]
  rfl

theorem update_missing (known : ofWord? word = some kind)
    (passes : ApiKey.check (some kind) key = .ok ()) (missing : v.find? ⟨user, kind⟩ = none) :
    v.update now user word key e = .error (.of .keyNotFound) := by
  rw [update, known, passes, lookUp_missing known missing]
  rfl

theorem update_refused (refused : ApiKey.check (ofWord? word) key = .error f) :
    v.update now user word key e = .error f := by
  rw [update, refused]
  rfl

theorem update_unknown (unknown : ofWord? word = none) :
    ∃ f, v.update now user word key e = .error f := by
  cases checked : ApiKey.check (ofWord? word) key with
  | error f => exact ⟨f, update_refused checked⟩
  | ok =>
    rw [update, checked, lookUp_unknown unknown]
    exact ⟨_, rfl⟩

theorem delete_eq : v.delete user word = (v.lookUp user word).map fun found => v.without found.1 := by
  unfold delete
  cases v.lookUp user word <;> rfl

theorem markUsed_eq : v.markUsed now user word = (v.lookUp user word).map fun found =>
    v.insert found.1 { found.2 with lastUsed := some now } := by
  unfold markUsed
  cases v.lookUp user word <;> rfl

theorem key_eq : v.key user word = (v.lookUp user word).bind fun found =>
    v.cipher.decrypt found.2.blob := by
  unfold Vault.key
  cases v.lookUp user word <;> rfl

theorem list_eq (distinct : v.slots.Nodup) (user : Int) :
    v.list user = (v.slots.filter fun slot => slot.user = user).filterMap v.find? := by
  rw [list, slots, List.filter_map, List.filterMap_map, ← List.filterMap_eq_map]
  refine List.filterMap_congr fun entry member => ?_
  exact (find?_of_mem distinct (List.mem_of_mem_filter member)).symm

end

/-! ### The vault reflects the ledger -/

/-- A slot has a record if it holds a key, and then it is the record of this key, with a blob that
opens to it. -/
structure Reflects (v : Vault) (ledger : VaultLedger) : Prop where
  opens : ∀ text e, v.cipher.decrypt (v.cipher.encrypt text e).1 = .ok text
  standing : v.slots = ledger.standing
  distinct : v.slots.Nodup
  record : ∀ slot keeping, ledger.held slot = some keeping →
    ∃ blob, v.find? slot = some (keeping.record slot blob) ∧
      v.cipher.decrypt blob = .ok keeping.key ∧ ApiKey.check (some slot.kind) keeping.key = .ok ()

namespace Reflects

variable {v : Vault} {ledger : VaultLedger} {slot : Slot} {now : Instant} {keeping : Keeping}
  {blob : String} {deed : Deed}

private theorem mem_slots_iff (reflects : v.Reflects ledger) :
    slot ∈ v.slots ↔ ∃ keeping, ledger.held slot = some keeping := by
  rw [reflects.standing, VaultLedger.mem_standing_iff, Option.isSome_iff_exists]

theorem vacant (reflects : v.Reflects ledger) (vacant : ledger.held slot = none) :
    v.find? slot = none := by
  refine find?_eq_none_iff.mpr fun taken => ?_
  obtain ⟨keeping, held⟩ := reflects.mem_slots_iff.mp taken
  rw [vacant] at held
  cases held

/-- Filling a slot with the record of the key that it is to hold. -/
theorem fill (reflects : v.Reflects ledger)
    (applied : deed.applied now (ledger.held slot) = some keeping)
    (placed : VaultLedger.standing (⟨slot, deed, now⟩ :: ledger) =
      if slot ∈ v.slots then v.slots else v.slots ++ [slot])
    (opens : v.cipher.decrypt blob = .ok keeping.key)
    (valid : ApiKey.check (some slot.kind) keeping.key = .ok ()) :
    (v.insert slot (keeping.record slot blob)).Reflects (⟨slot, deed, now⟩ :: ledger) where
  opens := reflects.opens
  standing := slots_insert.trans placed.symm
  distinct := by
    rw [slots_insert]
    split
    · exact reflects.distinct
    · next fresh =>
      refine List.nodup_append.mpr ⟨reflects.distinct, List.pairwise_singleton _ _, ?_⟩
      rintro other taken last own rfl
      exact fresh (List.mem_singleton.mp own ▸ taken)
  record other keeping' held := by
    -- The vault changes for the slot itself and for no other, and so does the ledger.
    rw [find?_insert]
    by_cases same : other = slot
    · subst same
      rw [VaultLedger.held, if_pos rfl, applied] at held
      obtain rfl := Option.some.inj held
      exact ⟨blob, if_pos rfl, opens, valid⟩
    · rw [VaultLedger.held, if_neg (Ne.symm same)] at held
      rw [if_neg same]
      exact reflects.record other keeping' held

theorem stored (reflects : v.Reflects ledger) {key : String} (vacant : ledger.held slot = none)
    (opens : v.cipher.decrypt blob = .ok key) (valid : ApiKey.check (some slot.kind) key = .ok ()) :
    (v.insert slot (Keeping.record slot blob ⟨key, now, now, none⟩)).Reflects
      (⟨slot, .stored key, now⟩ :: ledger) := by
  refine reflects.fill rfl ?_ opens valid
  have fresh : slot ∉ v.slots := find?_eq_none_iff.mp (reflects.vacant vacant)
  rw [if_neg fresh, reflects.standing]
  rfl

/-- What is done to a key that is held leaves it in its place. -/
theorem changed (reflects : v.Reflects ledger) {before : Keeping}
    (held : ledger.held slot = some before) (applied : deed.applied now (some before) = some keeping)
    (placed : VaultLedger.standing (⟨slot, deed, now⟩ :: ledger) = ledger.standing)
    (opens : v.cipher.decrypt blob = .ok keeping.key)
    (valid : ApiKey.check (some slot.kind) keeping.key = .ok ()) :
    (v.insert slot (keeping.record slot blob)).Reflects (⟨slot, deed, now⟩ :: ledger) := by
  refine reflects.fill (held ▸ applied) ?_ opens valid
  rw [if_pos (reflects.mem_slots_iff.mpr ⟨before, held⟩), placed, reflects.standing]

theorem deleted (reflects : v.Reflects ledger) :
    (v.without slot).Reflects (⟨slot, .deleted, now⟩ :: ledger) where
  opens := reflects.opens
  standing := by
    rw [slots_without, reflects.standing]
    rfl
  distinct := by
    rw [slots_without]
    exact reflects.distinct.filter _
  record other keeping held := by
    by_cases same : other = slot
    · subst same
      rw [VaultLedger.held, if_pos rfl] at held
      cases held
    · rw [VaultLedger.held, if_neg (Ne.symm same)] at held
      rw [find?_without, if_neg same]
      exact reflects.record other keeping held

/-! ### What each operation comes to -/

section

variable (reflects : v.Reflects ledger) {user : Int} {word : String} {kind : ProviderKind}
  (known : ofWord? word = some kind)
include reflects known

/-- Whoever asks for a slot finds nothing, in the ledger or in the vault, or finds the key in both. -/
theorem lookUp :
    (ledger.held ⟨user, kind⟩ = none ∧ v.find? ⟨user, kind⟩ = none ∧
      v.lookUp user word = .error (.of .keyNotFound)) ∨
    ∃ keeping blob, ledger.held ⟨user, kind⟩ = some keeping ∧
      v.find? ⟨user, kind⟩ = some (keeping.record ⟨user, kind⟩ blob) ∧
      v.lookUp user word = .ok (⟨user, kind⟩, keeping.record ⟨user, kind⟩ blob) ∧
      v.cipher.decrypt blob = .ok keeping.key ∧ ApiKey.check (some kind) keeping.key = .ok () := by
  cases held : ledger.held ⟨user, kind⟩ with
  | none =>
    have missing := reflects.vacant held
    exact .inl ⟨rfl, missing, lookUp_missing known missing⟩
  | some keeping =>
    obtain ⟨blob, found, opens, valid⟩ := reflects.record _ keeping held
    exact .inr ⟨keeping, blob, rfl, found, lookUp_found known found, opens, valid⟩

theorem store (now : Instant) (key : String) (e : Entropy) :
    (∃ f, ApiKey.check (some kind) key = .error f ∧ v.store now user word key e = .error f) ∨
    ApiKey.check (some kind) key = .ok () ∧
      (ledger.held ⟨user, kind⟩ ≠ none ∧ v.store now user word key e = .error (.of .keyExists) ∨
        ledger.held ⟨user, kind⟩ = none ∧ ∃ record e',
          v.store now user word key e = .ok (record, v.insert ⟨user, kind⟩ record, e') ∧
            (v.insert ⟨user, kind⟩ record).Reflects (⟨⟨user, kind⟩, .stored key, now⟩ :: ledger)) := by
  cases checked : ApiKey.check (some kind) key with
  | error f => exact .inl ⟨f, rfl, store_refused (known ▸ checked)⟩
  | ok =>
    refine .inr ⟨rfl, ?_⟩
    rcases reflects.lookUp known with ⟨vacant, nothing, -⟩ | ⟨keeping, blob, held, there, -⟩
    · refine .inr ⟨vacant, _, _, store_ok known checked nothing, ?_⟩
      exact reflects.stored vacant (reflects.opens key e) checked
    · exact .inl ⟨held ▸ nofun, store_taken known checked there⟩

theorem update (now : Instant) (key : String) (e : Entropy) :
    (∃ f, ApiKey.check (some kind) key = .error f ∧ v.update now user word key e = .error f) ∨
    ApiKey.check (some kind) key = .ok () ∧
      (ledger.held ⟨user, kind⟩ = none ∧ v.update now user word key e = .error (.of .keyNotFound) ∨
        ledger.held ⟨user, kind⟩ ≠ none ∧ ∃ record e',
          v.update now user word key e = .ok (record, v.insert ⟨user, kind⟩ record, e') ∧
            (v.insert ⟨user, kind⟩ record).Reflects (⟨⟨user, kind⟩, .updated key, now⟩ :: ledger)) := by
  cases checked : ApiKey.check (some kind) key with
  | error f => exact .inl ⟨f, rfl, update_refused (known ▸ checked)⟩
  | ok =>
    refine .inr ⟨rfl, ?_⟩
    rcases reflects.lookUp known with ⟨vacant, nothing, -⟩ | ⟨keeping, blob, held, there, -⟩
    · exact .inl ⟨vacant, update_missing known checked nothing⟩
    · refine .inr ⟨held ▸ nofun, _, _, update_ok known checked there, ?_⟩
      exact reflects.changed held rfl rfl (reflects.opens key e) checked

theorem delete (now : Instant) :
    ledger.held ⟨user, kind⟩ = none ∧ v.delete user word = .error (.of .keyNotFound) ∨
      ledger.held ⟨user, kind⟩ ≠ none ∧ ∃ after, v.delete user word = .ok after ∧
        after.Reflects (⟨⟨user, kind⟩, .deleted, now⟩ :: ledger) := by
  rw [delete_eq]
  rcases reflects.lookUp known with ⟨vacant, -, missing⟩ | ⟨keeping, blob, held, -, found, -⟩
  · rw [missing]
    exact .inl ⟨vacant, rfl⟩
  · rw [found]
    exact .inr ⟨held ▸ nofun, _, rfl, reflects.deleted⟩

theorem markUsed (now : Instant) :
    ledger.held ⟨user, kind⟩ = none ∧ v.markUsed now user word = .error (.of .keyNotFound) ∨
      ledger.held ⟨user, kind⟩ ≠ none ∧ ∃ after, v.markUsed now user word = .ok after ∧
        after.Reflects (⟨⟨user, kind⟩, .used, now⟩ :: ledger) := by
  rw [markUsed_eq]
  rcases reflects.lookUp known with ⟨vacant, -, missing⟩ | ⟨keeping, blob, held, -, found, opens, valid⟩
  · rw [missing]
    exact .inl ⟨vacant, rfl⟩
  · have marked : (v.insert ⟨user, kind⟩
        (Keeping.record ⟨user, kind⟩ blob { keeping with lastUsed := some now })).Reflects
        (⟨⟨user, kind⟩, .used, now⟩ :: ledger) := reflects.changed held rfl rfl opens valid
    rw [found]
    exact .inr ⟨held ▸ nofun, _, rfl, marked⟩

end

end Reflects

end Vault

end MemoAssist

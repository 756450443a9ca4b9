import MemoAssist.Proofs.Vault.Reflection

namespace MemoAssist

open ProviderKind (ofWord?)

namespace Vault

/-- What a vault does that holds for each slot the key that the ledger says. -/
structure Faithful (v : Vault) (ledger : VaultLedger) : Prop where
  /-- What is kept of a key: its mark and its masked form, a blob that opens to it, and its dates. -/
  record : ∀ slot keeping, ledger.held slot = some keeping →
    ∃ blob, v.find? slot = some (keeping.record slot blob) ∧
      v.cipher.decrypt blob = .ok keeping.key ∧ ApiKey.check (some slot.kind) keeping.key = .ok ()
  dated : ∀ slot keeping, ledger.held slot = some keeping →
    keeping.created.micros ≤ keeping.updated.micros ∧
      ∀ used, keeping.lastUsed = some used → keeping.created.micros ≤ used.micros
  /-- Nothing else is in the vault, and there is one record for each slot. -/
  nothing : ∀ slot, ledger.held slot = none → v.find? slot = none
  each : ∀ slot record, (slot, record) ∈ v.keys → v.find? slot = some record
  distinct : ledger.standing.Nodup
  key : ∀ user word kind, ofWord? word = some kind →
    v.key user word = match ledger.held ⟨user, kind⟩ with
      | some keeping => .ok keeping.key
      | none => .error (.of .keyNotFound)
  stored : ∀ user word kind, ofWord? word = some kind →
    v.stored user word = match v.find? ⟨user, kind⟩ with
      | some record => .ok record
      | none => .error (.of .keyNotFound)
  has : ∀ user word kind, ofWord? word = some kind →
    v.has user word = .ok (ledger.held ⟨user, kind⟩).isSome
  /-- The records of a user, in the order in which the slots were filled. -/
  list : ∀ user, v.list user =
    (ledger.standing.filter fun slot => slot.user = user).filterMap v.find?
  store : ∀ now user word kind key e, ofWord? word = some kind →
    ((∃ done, v.store now user word key e = .ok done) ↔
      ApiKey.check (some kind) key = .ok () ∧ ledger.held ⟨user, kind⟩ = none)
  update : ∀ now user word kind key e, ofWord? word = some kind →
    ((∃ done, v.update now user word key e = .ok done) ↔
      ApiKey.check (some kind) key = .ok () ∧ ledger.held ⟨user, kind⟩ ≠ none)
  delete : ∀ user word kind, ofWord? word = some kind →
    ((∃ after, v.delete user word = .ok after) ↔ ledger.held ⟨user, kind⟩ ≠ none)
  markUsed : ∀ now user word kind, ofWord? word = some kind →
    ((∃ after, v.markUsed now user word = .ok after) ↔ ledger.held ⟨user, kind⟩ ≠ none)
  /-- Storing and updating hand out what is kept from then on. -/
  handed : ∀ now user word kind key e record after e', ofWord? word = some kind →
    (v.store now user word key e = .ok (record, after, e') ∨
      v.update now user word key e = .ok (record, after, e')) → after.find? ⟨user, kind⟩ = some record
  missing : ∀ user word kind, ofWord? word = some kind → ledger.held ⟨user, kind⟩ = none →
    v.delete user word = .error (.of .keyNotFound) ∧
      (∀ now, v.markUsed now user word = .error (.of .keyNotFound)) ∧
      ∀ now key e, ApiKey.check (some kind) key = .ok () →
        v.update now user word key e = .error (.of .keyNotFound)
  taken : ∀ now user word kind key e, ofWord? word = some kind →
    ApiKey.check (some kind) key = .ok () → ledger.held ⟨user, kind⟩ ≠ none →
      v.store now user word key e = .error (.of .keyExists)
  refused : ∀ now user word key e f, ApiKey.check (ofWord? word) key = .error f →
    v.store now user word key e = .error f ∧ v.update now user word key e = .error f
  /-- There is no slot for a word that names no family. -/
  unknown : ∀ user word, ofWord? word = none →
    (∀ now key e, ∃ f, v.store now user word key e = .error f) ∧
      (∀ now key e, ∃ f, v.update now user word key e = .error f) ∧
      v.delete user word = .error (.of .unknownName) ∧
      (∀ now, v.markUsed now user word = .error (.of .unknownName)) ∧
      v.key user word = .error (.of .unknownName) ∧
      v.stored user word = .error (.of .unknownName) ∧
      v.has user word = .error (.of .unknownName)

namespace Reflects

variable {v : Vault} {ledger : VaultLedger} (reflects : v.Reflects ledger) {user : Int}
  {word : String} {kind : ProviderKind} (known : ofWord? word = some kind)
include reflects known

private theorem key_known : v.key user word = match ledger.held ⟨user, kind⟩ with
    | some keeping => .ok keeping.key
    | none => .error (.of .keyNotFound) := by
  rw [key_eq]
  rcases reflects.lookUp known with ⟨vacant, -, missing⟩ | ⟨keeping, blob, held, -, found, opens, -⟩
  · rw [vacant, missing]
    rfl
  · rw [held, found]
    exact opens

private theorem stored_known : v.stored user word = match v.find? ⟨user, kind⟩ with
    | some record => .ok record
    | none => .error (.of .keyNotFound) := by
  rw [Vault.stored]
  rcases reflects.lookUp known with ⟨-, nothing, missing⟩ | ⟨keeping, blob, -, there, found, -⟩
  · rw [nothing, missing]
    rfl
  · rw [there, found]
    rfl

private theorem has_known : v.has user word = .ok (ledger.held ⟨user, kind⟩).isSome := by
  rw [Vault.has, slotOf_known known, Except.map]
  rcases reflects.lookUp known with ⟨vacant, nothing, -⟩ | ⟨keeping, blob, held, there, -⟩
  · rw [vacant, nothing]
    rfl
  · rw [held, there]
    rfl

private theorem store_iff (now : Instant) (key : String) (e : Entropy) :
    (∃ done, v.store now user word key e = .ok done) ↔
      ApiKey.check (some kind) key = .ok () ∧ ledger.held ⟨user, kind⟩ = none := by
  rcases reflects.store known now key e with
    ⟨f, checked, failed⟩ | ⟨passes, ⟨full, failed⟩ | ⟨vacant, record, e', done, -⟩⟩
  · rw [checked, failed]
    exact ⟨nofun, nofun⟩
  · rw [failed]
    exact ⟨nofun, fun both => absurd both.2 full⟩
  · rw [done]
    exact ⟨fun _ => ⟨passes, vacant⟩, fun _ => ⟨_, rfl⟩⟩

private theorem update_iff (now : Instant) (key : String) (e : Entropy) :
    (∃ done, v.update now user word key e = .ok done) ↔
      ApiKey.check (some kind) key = .ok () ∧ ledger.held ⟨user, kind⟩ ≠ none := by
  rcases reflects.update known now key e with
    ⟨f, checked, failed⟩ | ⟨passes, ⟨vacant, failed⟩ | ⟨full, record, e', done, -⟩⟩
  · rw [checked, failed]
    exact ⟨nofun, nofun⟩
  · rw [failed]
    exact ⟨nofun, fun both => absurd vacant both.2⟩
  · rw [done]
    exact ⟨fun _ => ⟨passes, full⟩, fun _ => ⟨_, rfl⟩⟩

private theorem delete_iff :
    (∃ after, v.delete user word = .ok after) ↔ ledger.held ⟨user, kind⟩ ≠ none := by
  rcases reflects.delete known ⟨0⟩ with ⟨vacant, failed⟩ | ⟨full, after, done, -⟩
  · rw [failed]
    exact ⟨nofun, fun full => absurd vacant full⟩
  · rw [done]
    exact ⟨fun _ => full, fun _ => ⟨_, rfl⟩⟩

private theorem markUsed_iff (now : Instant) :
    (∃ after, v.markUsed now user word = .ok after) ↔ ledger.held ⟨user, kind⟩ ≠ none := by
  rcases reflects.markUsed known now with ⟨vacant, failed⟩ | ⟨full, after, done, -⟩
  · rw [failed]
    exact ⟨nofun, fun full => absurd vacant full⟩
  · rw [done]
    exact ⟨fun _ => full, fun _ => ⟨_, rfl⟩⟩

variable {now : Instant} {key : String} {e e' : Entropy} {record : StoredKey} {after : Vault}

private theorem find?_of_store (stored : v.store now user word key e = .ok (record, after, e')) :
    after.find? ⟨user, kind⟩ = some record := by
  rcases reflects.store known now key e with
    ⟨f, -, failed⟩ | ⟨-, ⟨-, failed⟩ | ⟨-, kept, e'', done, -⟩⟩
  · cases failed.symm.trans stored
  · cases failed.symm.trans stored
  · cases done.symm.trans stored
    rw [find?_insert, if_pos rfl]

private theorem find?_of_update (updated : v.update now user word key e = .ok (record, after, e')) :
    after.find? ⟨user, kind⟩ = some record := by
  rcases reflects.update known now key e with
    ⟨f, -, failed⟩ | ⟨-, ⟨-, failed⟩ | ⟨-, kept, e'', done, -⟩⟩
  · cases failed.symm.trans updated
  · cases failed.symm.trans updated
  · cases done.symm.trans updated
    rw [find?_insert, if_pos rfl]

end Reflects

theorem Reflects.faithful {v : Vault} {ledger : VaultLedger} (reflects : v.Reflects ledger)
    (ordered : ledger.Ordered) : v.Faithful ledger where
  record := reflects.record
  dated _ _ := VaultLedger.dated ordered
  nothing _ := reflects.vacant
  each _ _ := find?_of_mem reflects.distinct
  distinct := reflects.standing ▸ reflects.distinct
  key _ _ _ := reflects.key_known
  stored _ _ _ := reflects.stored_known
  has _ _ _ := reflects.has_known
  list user := by rw [list_eq reflects.distinct, reflects.standing]
  store now _ _ _ key e known := reflects.store_iff known now key e
  update now _ _ _ key e known := reflects.update_iff known now key e
  delete _ _ _ := reflects.delete_iff
  markUsed now _ _ _ known := reflects.markUsed_iff known now
  handed _ _ _ _ _ _ _ _ _ known done :=
    done.elim (reflects.find?_of_store known) (reflects.find?_of_update known)
  missing user word kind known vacant := by
    have nothing := reflects.vacant vacant
    have missing := lookUp_missing known nothing
    refine ⟨?_, fun now => ?_, fun now key e passes => update_missing known passes nothing⟩
    · rw [delete_eq, missing]
      rfl
    · rw [markUsed_eq, missing]
      rfl
  taken now user word kind key e known passes full := by
    obtain ⟨keeping, held⟩ := Option.ne_none_iff_exists'.mp full
    obtain ⟨blob, there, -⟩ := reflects.record _ keeping held
    exact store_taken known passes there
  refused now user word key e f checked := ⟨store_refused checked, update_refused checked⟩
  unknown user word unknown := by
    have missing : v.lookUp user word = .error (.of .unknownName) := lookUp_unknown unknown
    refine ⟨fun _ _ _ => store_unknown unknown, fun _ _ _ => update_unknown unknown, ?_,
      fun now => ?_, ?_, ?_, ?_⟩
    · rw [delete_eq, missing]
      rfl
    · rw [markUsed_eq, missing]
      rfl
    · rw [key_eq, missing]
      rfl
    · rw [Vault.stored, missing]
      rfl
    · rw [Vault.has, slotOf_unknown unknown]
      rfl

end Vault

end MemoAssist

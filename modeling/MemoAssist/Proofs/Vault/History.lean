import MemoAssist.Proofs.Cipher.Sealing
import MemoAssist.Proofs.Vault.Faithful

namespace MemoAssist

open ProviderKind (ofWord?)

/-- A call to the vault by some user, who names a family by some word. -/
inductive VaultCall where
  | change (user : Int) (word : String) (deed : Deed)
  | key (user : Int) (word : String)
  | stored (user : Int) (word : String)
  | has (user : Int) (word : String)
  | list (user : Int)

namespace VaultCall

/-- The vault and its source of nonces after a call that succeeds. -/
def run (now : Instant) (v : Vault) (e : Entropy) : VaultCall → Except Fault (Vault × Entropy)
  | .change user word (.stored secret) => (v.store now user word secret e).map Prod.snd
  | .change user word (.updated secret) => (v.update now user word secret e).map Prod.snd
  | .change user word .used => (v.markUsed now user word).map fun v => (v, e)
  | .change user word .deleted => (v.delete user word).map fun v => (v, e)
  | .key user word => (v.key user word).map fun _ => (v, e)
  | .stored user word => (v.stored user word).map fun _ => (v, e)
  | .has user word => (v.has user word).map fun _ => (v, e)
  | .list _ => .ok (v, e)

/-- What the ledger says of a call that succeeds. -/
def note? (now : Instant) : VaultCall → Option Change
  | .change user word deed => (ofWord? word).map fun kind => ⟨⟨user, kind⟩, deed, now⟩
  | .key .. | .stored .. | .has .. | .list _ => none

variable {v : Vault} {ledger : VaultLedger} {now : Instant} {user : Int} {word : String}

private theorem run_change {kind : ProviderKind} (reflects : v.Reflects ledger)
    (known : ofWord? word = some kind) (e : Entropy) (deed : Deed) :
    (∃ f, run now v e (.change user word deed) = .error f) ∨
      ∃ after e', run now v e (.change user word deed) = .ok (after, e') ∧
        after.Reflects (⟨⟨user, kind⟩, deed, now⟩ :: ledger) := by
  cases deed with
  | stored secret =>
    rcases reflects.store known now secret e with
      ⟨f, -, failed⟩ | ⟨-, ⟨-, failed⟩ | ⟨-, record, e', done, kept⟩⟩
    · exact .inl ⟨f, congrArg (Except.map Prod.snd) failed⟩
    · exact .inl ⟨_, congrArg (Except.map Prod.snd) failed⟩
    · exact .inr ⟨_, _, congrArg (Except.map Prod.snd) done, kept⟩
  | updated secret =>
    rcases reflects.update known now secret e with
      ⟨f, -, failed⟩ | ⟨-, ⟨-, failed⟩ | ⟨-, record, e', done, kept⟩⟩
    · exact .inl ⟨f, congrArg (Except.map Prod.snd) failed⟩
    · exact .inl ⟨_, congrArg (Except.map Prod.snd) failed⟩
    · exact .inr ⟨_, _, congrArg (Except.map Prod.snd) done, kept⟩
  | used =>
    rcases reflects.markUsed known now with ⟨-, failed⟩ | ⟨-, after, done, kept⟩
    · exact .inl ⟨_, congrArg (Except.map fun v => (v, e)) failed⟩
    · exact .inr ⟨_, _, congrArg (Except.map fun v => (v, e)) done, kept⟩
  | deleted =>
    rcases reflects.delete known now with ⟨-, failed⟩ | ⟨-, after, done, kept⟩
    · exact .inl ⟨_, congrArg (Except.map fun v => (v, e)) failed⟩
    · exact .inr ⟨_, _, congrArg (Except.map fun v => (v, e)) done, kept⟩

private theorem run_unknown (unknown : ofWord? word = none) (e : Entropy) (deed : Deed) :
    ∃ f, run now v e (.change user word deed) = .error f := by
  cases deed with
  | stored secret =>
    obtain ⟨f, failed⟩ := Vault.store_unknown unknown
    exact ⟨f, congrArg (Except.map Prod.snd) failed⟩
  | updated secret =>
    obtain ⟨f, failed⟩ := Vault.update_unknown unknown
    exact ⟨f, congrArg (Except.map Prod.snd) failed⟩
  | used =>
    rw [run, Vault.markUsed_eq, Vault.lookUp_unknown unknown]
    exact ⟨_, rfl⟩
  | deleted =>
    rw [run, Vault.delete_eq, Vault.lookUp_unknown unknown]
    exact ⟨_, rfl⟩

end VaultCall

/-- A vault in use, with its source of nonces and its ledger. -/
structure VaultState where
  vault : Vault
  entropy : Entropy
  ledger : VaultLedger := []

namespace VaultState

/-- A call that fails leaves everything as it is. -/
def visit (s : VaultState) (now : Instant) (call : VaultCall) : VaultState :=
  match call.run now s.vault s.entropy with
  | .ok (vault, entropy) => { vault, entropy, ledger := (call.note? now).toList ++ s.ledger }
  | .error _ => s

def after (s : VaultState) (visits : List (Instant × VaultCall)) : VaultState :=
  visits.foldl (fun s visit => s.visit visit.1 visit.2) s

variable {s : VaultState} {now : Instant} {call : VaultCall} {visits : List (Instant × VaultCall)}

private theorem visit_failed {f : Fault} (failed : call.run now s.vault s.entropy = .error f) :
    s.visit now call = s := by
  rw [visit, failed]

private theorem visit_done {v : Vault} {e : Entropy} (done : call.run now s.vault s.entropy = .ok (v, e)) :
    s.visit now call = { vault := v, entropy := e, ledger := (call.note? now).toList ++ s.ledger } := by
  rw [visit, done]

/-- A call that only looks leaves everything as it is, whether or not it succeeds. -/
theorem visit_looking {α : Type} (outcome : Except Fault α)
    (looks : call.run now s.vault s.entropy = outcome.map fun _ => (s.vault, s.entropy))
    (unnoted : call.note? now = none) : s.visit now call = s := by
  cases outcome with
  | error f => exact visit_failed looks
  | ok a =>
    rw [visit_done looks, unnoted]
    rfl

private theorem reflects_visit (reflects : s.vault.Reflects s.ledger) (now : Instant) (call : VaultCall) :
    (s.visit now call).vault.Reflects (s.visit now call).ledger := by
  cases call with
  | key user word => rwa [visit_looking (s.vault.key user word) rfl rfl]
  | stored user word => rwa [visit_looking (s.vault.stored user word) rfl rfl]
  | has user word => rwa [visit_looking (s.vault.has user word) rfl rfl]
  | list user => rwa [visit_looking (.ok ()) rfl rfl]
  | change user word deed =>
    cases known : ofWord? word with
    | none =>
      obtain ⟨f, failed⟩ := VaultCall.run_unknown known s.entropy deed
      rwa [visit_failed failed]
    | some kind =>
      rcases VaultCall.run_change reflects known s.entropy deed with
        ⟨f, failed⟩ | ⟨after, e, done, kept⟩
      · rwa [visit_failed failed]
      · rw [visit_done done, VaultCall.note?, known]
        exact kept

private theorem reflects_after (reflects : s.vault.Reflects s.ledger) (visits : List (Instant × VaultCall)) :
    (s.after visits).vault.Reflects (s.after visits).ledger := by
  induction visits generalizing s with
  | nil => exact reflects
  | cons visit rest ih => exact ih (reflects_visit reflects visit.1 visit.2)

/-! ### Dates -/

/-- What the ledger says in addition after a call happened at the moment of the call. -/
theorem mem_ledger_visit {change : Change} (member : change ∈ (s.visit now call).ledger) :
    change ∈ s.ledger ∨ change.now = now := by
  rw [visit] at member
  split at member
  · rcases List.mem_append.mp member with noted | before
    · cases call with
      | change user word deed =>
        obtain ⟨kind, -, rfl⟩ := Option.map_eq_some_iff.mp (Option.mem_toList.mp noted)
        exact .inr rfl
      | key | stored | has | list => cases noted
    · exact .inl before
  · exact .inl member

private theorem ordered_visit (ordered : s.ledger.Ordered)
    (later : ∀ change ∈ s.ledger, change.now.micros ≤ now.micros) (call : VaultCall) :
    (s.visit now call).ledger.Ordered := by
  rw [visit]
  split
  · cases call with
    | change user word deed =>
      rw [VaultCall.note?]
      cases ofWord? word with
      | none => exact ordered
      | some kind => exact List.pairwise_cons.mpr ⟨later, ordered⟩
    | key | stored | has | list => exact ordered
  · exact ordered

private theorem ordered_after (ordered : s.ledger.Ordered)
    (later : ∀ change ∈ s.ledger, ∀ visit ∈ visits, change.now.micros ≤ visit.1.micros)
    (inOrder : visits.Pairwise fun early late => early.1.micros ≤ late.1.micros) :
    (s.after visits).ledger.Ordered := by
  -- The ledger has to stay behind all visits still to come, not only the next.
  induction visits generalizing s with
  | nil => exact ordered
  | cons visit rest ih =>
    obtain ⟨first, inOrder⟩ := List.pairwise_cons.mp inOrder
    refine ih (ordered_visit ordered (fun change member => later change member visit List.mem_cons_self)
      visit.2) (fun change member other behind => ?_) inOrder
    rcases mem_ledger_visit member with before | now
    · exact later change before other (List.mem_cons_of_mem _ behind)
    · exact now ▸ first other behind

end VaultState

/-- A vault that was just opened reflects the empty ledger. -/
theorem Vault.reflects_start {k : KeyCipher}
    (opens : ∀ text e, k.decrypt (k.encrypt text e).1 = .ok text) :
    Vault.Reflects { cipher := k } [] where
  opens := opens
  standing := rfl
  distinct := List.nodup_nil
  record _ _ := nofun

/-- A master secret that is long enough opens a vault, and after any calls at any moments, none of
them earlier than the one before, the vault is faithful to the ledger of those that succeeded. -/
theorem Vault.faithful_after {master : String}
    (long : KeyCipher.shortestMaster ≤ (Text.encode master).length) (e : Entropy)
    (visits : List (Instant × VaultCall))
    (inOrder : visits.Pairwise fun early late => early.1.micros ≤ late.1.micros) :
    ∃ v, Vault.open? master = .ok v ∧
      (VaultState.after ⟨v, e, []⟩ visits).vault.Faithful
        (VaultState.after ⟨v, e, []⟩ visits).ledger := by
  obtain ⟨k, made⟩ : ∃ k, KeyCipher.ofMaster master = .ok k := ⟨_, if_neg (Nat.not_lt.mpr long)⟩
  have opens := KeyCipher.decrypt_encrypt (KeyCipher.length_block made)
  refine ⟨{ cipher := k }, by rw [Vault.open?, made]; rfl, ?_⟩
  refine (VaultState.reflects_after (Vault.reflects_start opens) visits).faithful ?_
  exact VaultState.ordered_after .nil nofun inOrder

/-- A key is stored and replaced, while a user who has none cannot use it. -/
theorem Vault.faithful_after_update :
    ∃ v, Vault.open? "0123456789abcdef" = .ok v ∧
      (VaultState.after ⟨v, .counting, []⟩
        [(⟨0⟩, .change 1 "openai" (.stored "sk-aaaaaaaaaaaaaaaaaaaa")),
          (⟨5⟩, .change 2 "openai" .used),
          (⟨7⟩, .change 1 "openai" (.updated "sk-bbbbbbbbbbbbbbbbbbbb"))]).vault.key 1 "openai" =
        .ok "sk-bbbbbbbbbbbbbbbbbbbb" := by
  have long : KeyCipher.shortestMaster ≤ (Text.encode "0123456789abcdef").length := by decide
  obtain ⟨v, opened, faithful⟩ := Vault.faithful_after long .counting
    [(⟨0⟩, .change 1 "openai" (.stored "sk-aaaaaaaaaaaaaaaaaaaa")),
      (⟨5⟩, .change 2 "openai" .used),
      (⟨7⟩, .change 1 "openai" (.updated "sk-bbbbbbbbbbbbbbbbbbbb"))] (by decide)
  refine ⟨v, opened, ?_⟩
  obtain ⟨k, rfl⟩ : ∃ k, v = { cipher := k } := by
    rw [Vault.open?] at opened
    cases made : KeyCipher.ofMaster "0123456789abcdef" with
    | error f => rw [made] at opened; cases opened
    | ok k => rw [made] at opened; exact ⟨k, (Except.ok.inj opened).symm⟩
  exact (faithful.key 1 "openai" .openai rfl).trans (by rfl)

end MemoAssist

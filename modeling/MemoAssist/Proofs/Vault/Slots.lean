import MemoAssist.Proofs.Entries
import MemoAssist.Vault

namespace MemoAssist.Vault

variable {v : Vault} {slot other : Slot} {kept : StoredKey} {user : Int} {word : String} {f : Fault}

/-- The slots that are taken, in the order in which they were. -/
def slots (v : Vault) : List Slot := v.keys.map Prod.fst

/-- The vault with a slot emptied. -/
def without (slot : Slot) (v : Vault) : Vault :=
  { v with keys := v.keys.filter fun entry => entry.1 ≠ slot }

theorem puts : Puts put where
  empty _ _ := rfl
  here _ _ _ _ := if_pos rfl
  elsewhere _ _ _ _ _ apart := if_neg apart

theorem find?_eq_none_iff : v.find? slot = none ↔ slot ∉ v.slots := by
  rw [find?, Option.map_eq_none_iff]
  exact find?_eq_none_iff_key

/-- If each slot has one entry, it is the one that is found. -/
theorem find?_of_mem (distinct : v.slots.Nodup) {entry : Slot × StoredKey} (member : entry ∈ v.keys) :
    v.find? entry.1 = some entry.2 :=
  congrArg (Option.map Prod.snd) (find?_entry distinct member)

/-! ### Filling a slot -/

theorem find?_insert :
    (v.insert slot kept).find? other = if other = slot then some kept else v.find? other := by
  rw [find?, insert, puts.find?_put]
  split <;> rfl

theorem slots_insert :
    (v.insert slot kept).slots = if slot ∈ v.slots then v.slots else v.slots ++ [slot] :=
  puts.keys_put

/-! ### Emptying a slot -/

theorem find?_without :
    (v.without slot).find? other = if other = slot then none else v.find? other := by
  rw [find?, without, List.find?_filter]
  split
  · next same =>
    subst same
    rw [Option.map_eq_none_iff, List.find?_eq_none]
    rintro entry - both
    simp at both
  · next apart =>
    rw [find?]
    congr 2
    funext entry
    by_cases here : entry.1 = other
    · simp [here, apart]
    · simp [here]

theorem slots_without : (v.without slot).slots = v.slots.filter fun other => other ≠ slot := by
  rw [slots, without, slots, List.filter_map]
  rfl

/-! ### Asking for a slot -/

theorem slotOf_known {kind : ProviderKind} (known : ProviderKind.ofWord? word = some kind) :
    slotOf user word = .ok ⟨user, kind⟩ := by
  rw [slotOf, ProviderKind.ofWord, known]
  rfl

theorem slotOf_unknown (unknown : ProviderKind.ofWord? word = none) :
    slotOf user word = .error (.of .unknownName) := by
  rw [slotOf, ProviderKind.ofWord, unknown]
  rfl

theorem lookUp_found {kind : ProviderKind} (known : ProviderKind.ofWord? word = some kind)
    (found : v.find? ⟨user, kind⟩ = some kept) : v.lookUp user word = .ok (⟨user, kind⟩, kept) := by
  rw [lookUp, slotOf_known known]
  simp only [bind, Except.bind, found]
  rfl

theorem lookUp_missing {kind : ProviderKind} (known : ProviderKind.ofWord? word = some kind)
    (missing : v.find? ⟨user, kind⟩ = none) : v.lookUp user word = .error (.of .keyNotFound) := by
  rw [lookUp, slotOf_known known]
  simp only [bind, Except.bind, missing]

theorem lookUp_unknown (unknown : ProviderKind.ofWord? word = none) :
    v.lookUp user word = .error (.of .unknownName) := by
  rw [lookUp, slotOf_unknown unknown]
  rfl

end MemoAssist.Vault

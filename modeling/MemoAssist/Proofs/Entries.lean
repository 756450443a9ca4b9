import Mathlib.Data.List.Nodup

/-! Tables of entries under keys, and what it is to put an entry into one: it takes the place of the
entry that is there under its key, or goes to the end if there is none. -/
namespace MemoAssist

variable {κ α : Type} [DecidableEq κ]

structure Puts (put : κ → α → List (κ × α) → List (κ × α)) : Prop where
  empty : ∀ key new, put key new [] = [(key, new)]
  here : ∀ key new old rest, put key new ((key, old) :: rest) = (key, new) :: rest
  elsewhere : ∀ key new other old rest, other ≠ key →
    put key new ((other, old) :: rest) = (other, old) :: put key new rest

namespace Puts

variable {put : κ → α → List (κ × α) → List (κ × α)} (puts : Puts put) {key other : κ} {new : α}
  {entries : List (κ × α)}
include puts

/-- The entry that was put is found under its key, and nothing else has changed. -/
theorem find?_put : (put key new entries).find? (fun entry => entry.1 = other) =
    if other = key then some (key, new) else entries.find? fun entry => entry.1 = other := by
  induction entries with
  | nil =>
    rw [puts.empty]
    by_cases same : other = key
    · simp [same]
    · simp [same, Ne.symm same]
  | cons head rest ih =>
    obtain ⟨name, old⟩ := head
    by_cases here : name = key
    · subst here
      rw [puts.here]
      by_cases same : other = name
      · simp [same]
      · simp [same, Ne.symm same]
    · rw [puts.elsewhere _ _ _ _ _ here]
      by_cases same : other = name
      · subst same
        simp [here]
      · simp [ih, Ne.symm same]

omit [DecidableEq κ] in
theorem put_new (fresh : key ∉ entries.map Prod.fst) : put key new entries = entries ++ [(key, new)] := by
  induction entries with
  | nil => exact puts.empty key new
  | cons head rest ih =>
    obtain ⟨name, old⟩ := head
    have apart : name ≠ key := Ne.symm (List.ne_of_not_mem_cons fresh)
    rw [puts.elsewhere _ _ _ _ _ apart, ih (List.not_mem_of_not_mem_cons fresh), List.cons_append]

omit [DecidableEq κ] in
theorem put_there {old : α} {rest : List (κ × α)} (fresh : key ∉ entries.map Prod.fst) :
    put key new (entries ++ (key, old) :: rest) = entries ++ (key, new) :: rest := by
  induction entries with
  | nil => exact puts.here key new old rest
  | cons head rest ih =>
    obtain ⟨name, old⟩ := head
    have apart : name ≠ key := Ne.symm (List.ne_of_not_mem_cons fresh)
    rw [List.cons_append, puts.elsewhere _ _ _ _ _ apart, ih (List.not_mem_of_not_mem_cons fresh),
      List.cons_append]

theorem keys_put : (put key new entries).map Prod.fst =
    if key ∈ entries.map Prod.fst then entries.map Prod.fst else entries.map Prod.fst ++ [key] := by
  induction entries with
  | nil => simp [puts.empty]
  | cons head rest ih =>
    obtain ⟨name, old⟩ := head
    by_cases here : name = key
    · subst here
      simp [puts.here]
    · rw [puts.elsewhere _ _ _ _ _ here, List.map_cons, ih]
      by_cases taken : key ∈ rest.map Prod.fst
      · simp [taken]
      · simp [taken, Ne.symm here]

theorem nodup_put (distinct : (entries.map Prod.fst).Nodup) :
    ((put key new entries).map Prod.fst).Nodup := by
  rw [puts.keys_put]
  split
  · exact distinct
  · next fresh =>
    rw [← List.concat_eq_append]
    exact distinct.concat fresh

end Puts

/-- If every key has one entry, it is the one that is found. -/
theorem find?_entry {entries : List (κ × α)} (distinct : (entries.map Prod.fst).Nodup)
    {entry : κ × α} (member : entry ∈ entries) :
    (entries.find? fun other => other.1 = entry.1) = some entry := by
  induction entries with
  | nil => cases member
  | cons head rest ih =>
    obtain ⟨fresh, distinct⟩ := List.nodup_cons.mp distinct
    rcases List.mem_cons.mp member with rfl | later
    · exact List.find?_cons_of_pos (decide_eq_true rfl)
    · have apart : ¬ head.1 = entry.1 := fun same => fresh (same ▸ List.mem_map_of_mem later)
      rw [List.find?_cons_of_neg (by simpa using apart)]
      exact ih distinct later

theorem entry_eq {entries : List (κ × α)} (distinct : (entries.map Prod.fst).Nodup)
    {entry other : κ × α} (member : entry ∈ entries) (there : other ∈ entries)
    (same : entry.1 = other.1) : entry = other := by
  have found := find?_entry distinct member
  rw [same, find?_entry distinct there] at found
  exact (Option.some.inj found).symm

theorem find?_eq_none_iff_key {entries : List (κ × α)} {key : κ} :
    (entries.find? fun entry => entry.1 = key) = none ↔ key ∉ entries.map Prod.fst := by
  rw [List.find?_eq_none, List.mem_map]
  constructor
  · rintro absent ⟨entry, member, rfl⟩
    exact absent entry member (decide_eq_true rfl)
  · intro absent entry member here
    exact absent ⟨entry, member, of_decide_eq_true here⟩

/-- An entry is the one just put, or was there under another key. -/
theorem Puts.mem_put {put : κ → α → List (κ × α) → List (κ × α)} (puts : Puts put) {key other : κ}
    {new old : α} {entries : List (κ × α)} (distinct : (entries.map Prod.fst).Nodup)
    (member : (other, old) ∈ put key new entries) :
    other = key ∧ old = new ∨ other ≠ key ∧ (other, old) ∈ entries := by
  have found := find?_entry (puts.nodup_put distinct) member
  rw [puts.find?_put] at found
  split at found
  · next same => exact .inl ⟨same, (congrArg Prod.snd (Option.some.inj found)).symm⟩
  · next apart => exact .inr ⟨apart, List.mem_of_find?_eq_some found⟩

end MemoAssist

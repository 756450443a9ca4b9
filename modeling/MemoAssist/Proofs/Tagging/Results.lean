import MemoAssist.Proofs.Entries
import MemoAssist.Tagging.Cache

namespace MemoAssist.TagCache

variable {τ : Type} {cache : TagCache τ} {key other : String} {entry old : CachedTags τ}

def keys (cache : TagCache τ) : List String := cache.map Prod.fst

theorem find?_mem (found : cache.find? key = some entry) : (key, entry) ∈ cache := by
  obtain ⟨⟨name, here⟩, listed, rfl⟩ := Option.map_eq_some_iff.mp found
  have same : name = key := by simpa using List.find?_some listed
  exact same ▸ List.mem_of_find?_eq_some listed

theorem mem_keys (member : (key, entry) ∈ cache) : key ∈ cache.keys := List.mem_map_of_mem member

theorem find?_of_mem (distinct : cache.keys.Nodup) (member : (key, entry) ∈ cache) :
    cache.find? key = some entry := congrArg (Option.map Prod.snd) (find?_entry distinct member)

theorem find?_eq_none_iff : cache.find? key = none ↔ key ∉ cache.keys :=
  Option.map_eq_none_iff.trans find?_eq_none_iff_key

/-! ### Putting -/

theorem puts : Puts (@put τ) where
  empty _ _ := rfl
  here _ _ _ _ := if_pos rfl
  elsewhere _ _ _ _ _ apart := if_neg apart

theorem find?_put_self (key : String) (entry : CachedTags τ) (cache : TagCache τ) :
    (put key entry cache).find? key = some entry := by
  rw [find?, puts.find?_put, if_pos rfl]
  rfl

/-! ### Making room -/

section Timed

variable [TimeScale τ] {capacity : Int} {span now : τ} {tags : List String}

private theorem dropOldest_sublist : (dropOldest cache).Sublist cache := by
  induction cache with
  | nil => exact List.Sublist.refl []
  | cons head rest ih =>
    unfold dropOldest
    split
    · exact ih.cons_cons head
    · exact List.sublist_cons_self head rest

theorem dropOldestOf_sublist {count : Nat} : (dropOldestOf count cache).Sublist cache := by
  induction count generalizing cache with
  | zero => exact List.Sublist.refl cache
  | succ count ih => exact ih.trans dropOldest_sublist

private theorem evict_sublist : (evict capacity span now cache).Sublist cache := by
  simp only [evict]
  split
  · exact dropOldestOf_sublist.trans List.filter_sublist
  · exact List.filter_sublist

/-! ### Keeping and looking up -/

/-- What the cache is cut down to before a result is kept. -/
theorem room_sublist :
    (if isFull capacity cache then evict capacity span now cache else cache).Sublist cache := by
  split
  · exact evict_sublist
  · exact List.Sublist.refl cache

theorem nodup_insert (distinct : cache.keys.Nodup) :
    (insert capacity span now key tags cache).keys.Nodup :=
  puts.nodup_put (distinct.sublist (room_sublist.map Prod.fst))

theorem mem_insert (distinct : cache.keys.Nodup)
    (member : (other, old) ∈ insert capacity span now key tags cache) :
    other = key ∧ old = ⟨tags, now⟩ ∨ other ≠ key ∧ (other, old) ∈ cache := by
  rcases puts.mem_put (distinct.sublist (room_sublist.map Prod.fst)) member with now | ⟨apart, before⟩
  · exact .inl now
  · exact .inr ⟨apart, room_sublist.subset before⟩

/-- Under another key there is what was there before, or nothing. -/
theorem find?_insert_of_ne (distinct : cache.keys.Nodup) (apart : other ≠ key) :
    (insert capacity span now key tags cache).find? other =
      if other ∈ (insert capacity span now key tags cache).keys then cache.find? other else none := by
  cases found : (insert capacity span now key tags cache).find? other with
  | none => rw [if_neg (find?_eq_none_iff.mp found)]
  | some entry =>
    have member := find?_mem found
    rcases mem_insert distinct member with ⟨same, -⟩ | ⟨-, before⟩
    · exact absurd same apart
    · rw [if_pos (mem_keys member), find?_of_mem distinct before]

/-- What is found was kept under the key, and is not out of date. -/
theorem lookUp_some (found : lookUp span now key cache = some tags) :
    ∃ entry, (key, entry) ∈ cache ∧ entry.tags = tags ∧ ¬ span < now - entry.created := by
  obtain ⟨entry, kept, rfl⟩ := Option.map_eq_some_iff.mp found
  obtain ⟨here, fresh⟩ := Option.filter_eq_some_iff.mp kept
  exact ⟨entry, find?_mem here, rfl, by simpa [isOutdated] using fresh⟩

theorem lookUp_of_mem (distinct : cache.keys.Nodup) (member : (key, entry) ∈ cache)
    (fresh : ¬ span < now - entry.created) : lookUp span now key cache = some entry.tags := by
  simp [lookUp, find?_of_mem distinct member, isOutdated, fresh]

/-- What was just kept is found, if results are valid at all. -/
theorem lookUp_insert {later : τ} (fresh : ¬ span < later - now) :
    lookUp span later key (insert capacity span now key tags cache) = some tags := by
  simp [lookUp, insert, find?_put_self, isOutdated, fresh]

end Timed

end MemoAssist.TagCache

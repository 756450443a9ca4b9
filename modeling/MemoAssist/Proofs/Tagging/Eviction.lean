import MemoAssist.Proofs.Clock.Exact
import MemoAssist.Proofs.Tagging.Results

/-! What the cache gives up to keep a result. It never grows beyond its capacity, or beyond one entry
if that is less; what goes is what is out of date, and then the oldest of the rest, of equally old
entries the first. -/
namespace MemoAssist.TagCache

variable {τ : Type} [TimeScale τ] {capacity : Int} {span now : τ} {key : String} {tags : List String}
  {cache before after kept : TagCache τ} {entry : CachedTags τ} {count : Nat}

/-! ### The size of a cache -/

private theorem length_dropOldest : (dropOldest cache).length = cache.length - 1 := by
  induction cache with
  | nil => rfl
  | cons head rest ih =>
    unfold dropOldest
    split
    · next older =>
      obtain ⟨other, member, -⟩ := List.any_eq_true.mp older
      have := List.length_pos_of_mem member
      simp only [List.length_cons, ih]
      omega
    · rfl

private theorem length_dropOldestOf : (dropOldestOf count cache).length = cache.length - count := by
  induction count generalizing cache with
  | zero => rfl
  | succ count ih =>
    rw [dropOldestOf, ih, length_dropOldest]
    omega

omit [TimeScale τ] in
theorem isFull_iff : isFull capacity cache = true ↔ capacity ≤ cache.length := decide_eq_true_iff

omit [TimeScale τ] in
theorem not_isFull_iff : ¬ isFull capacity cache = true ↔ cache.length < capacity := by
  rw [isFull_iff, not_le]

/-- What a cache is cut down to before a result is kept. -/
def room (capacity : Int) (span now : τ) (cache : TagCache τ) : TagCache τ :=
  if isFull capacity cache then evict capacity span now cache else cache

private theorem insert_eq_put :
    insert capacity span now key tags cache = put key ⟨tags, now⟩ (room capacity span now cache) :=
  rfl

omit [TimeScale τ] in
private theorem length_put_le : (put key entry cache).length ≤ cache.length + 1 := by
  have keys : (put key entry cache).keys.length = _ := congrArg List.length puts.keys_put
  split at keys <;> simp [TagCache.keys] at keys <;> omega

private theorem room_roomy (roomy : cache.length < capacity) : room capacity span now cache = cache :=
  if_neg (not_isFull_iff.mpr roomy)

/-- Room for one more, unless the cache was never allowed any. -/
theorem length_room (within : (cache.length : Int) ≤ max 1 capacity) :
    ((room capacity span now cache).length : Int) < max 1 capacity := by
  unfold room evict
  split
  · next full =>
    dsimp only
    have fewer := List.length_filter_le (fun entry => !isOutdated span now entry.2) cache
    split
    · have atLeastOne : 1 ≤ batch capacity := by unfold batch; omega
      rw [length_dropOldestOf]
      omega
    · next roomy =>
      have := not_isFull_iff.mp roomy
      omega
  · next roomy =>
    have := not_isFull_iff.mp roomy
    omega

theorem length_insert_le (within : (cache.length : Int) ≤ max 1 capacity) :
    ((insert capacity span now key tags cache).length : Int) ≤ max 1 capacity := by
  have added : (put key ⟨tags, now⟩ (room capacity span now cache)).length ≤ _ := length_put_le
  have room : ((room capacity span now cache).length : Int) < _ := length_room within
  rw [insert_eq_put]
  omega

theorem mem_insert_self : (key, ⟨tags, now⟩) ∈ insert capacity span now key tags cache :=
  find?_mem (find?_put_self key ⟨tags, now⟩ _)

/-! ### The oldest entries -/

variable [ExactScale τ]

open ExactScale (value lt_iff value_sub)

/-- The oldest entry goes, the first of those as old: all before it are newer, and none behind it is
older. -/
theorem dropOldest_cases (cache : TagCache τ) : cache = [] ∨ ∃ newer first later,
    cache = newer ++ first :: later ∧ dropOldest cache = newer ++ later ∧
      (∀ other ∈ newer, value first.2.created < value other.2.created) ∧
      ∀ other ∈ later, value first.2.created ≤ value other.2.created := by
  induction cache with
  | nil => exact .inl rfl
  | cons head rest ih =>
    right
    unfold dropOldest
    split
    · next older =>
      obtain ⟨other, member, less⟩ := List.any_eq_true.mp older
      have less : value other.2.created < value head.2.created := (lt_iff _ _).mp (of_decide_eq_true less)
      rcases ih with rfl | ⟨newer, first, later, rfl, dropped, strictly, weakly⟩
      · cases member
      · refine ⟨head :: newer, first, later, rfl, by rw [dropped]; rfl, ?_, weakly⟩
        have oldest : value first.2.created ≤ value other.2.created := by
          rcases List.mem_append.mp member with early | late
          · exact (strictly other early).le
          · rcases List.mem_cons.mp late with rfl | late
            · exact le_rfl
            · exact weakly other late
        intro entry among
        rcases List.mem_cons.mp among with rfl | among
        · exact oldest.trans_lt less
        · exact strictly entry among
    · next none =>
      refine ⟨[], head, rest, rfl, rfl, fun _ absent => (List.not_mem_nil absent).elim,
        fun other member => ?_⟩
      refine not_lt.mp fun less => none (List.any_eq_true.mpr ⟨other, member, ?_⟩)
      exact decide_eq_true ((lt_iff _ _).mpr less)

/-- So many entries fewer: what is gone is no newer than what stays, and the earlier of two entries
of one age goes first. -/
structure Thinned (count : Nat) (before after : TagCache τ) : Prop where
  kept : after.Sublist before
  number : after.length + min count before.length = before.length
  oldest : ∀ gone ∈ before, gone ∉ after → ∀ stays ∈ after,
    value gone.2.created < value stays.2.created ∨
      value gone.2.created = value stays.2.created ∧ [gone, stays].Sublist before

private theorem thinned_dropOldestOf (count : Nat) (cache : TagCache τ) :
    Thinned count cache (dropOldestOf count cache) := by
  refine ⟨dropOldestOf_sublist, by rw [length_dropOldestOf]; omega, ?_⟩
  induction count generalizing cache with
  | zero => exact fun gone member absent => absurd member absent
  | succ count ih =>
    rcases dropOldest_cases cache with rfl | ⟨newer, first, later, rfl, dropped, strictly, weakly⟩
    · exact fun gone member => (List.not_mem_nil member).elim
    rw [dropOldestOf, dropped]
    intro gone member absent stays remains
    have fewer : (newer ++ later).Sublist (newer ++ first :: later) :=
      (List.sublist_cons_self first later).append_left newer
    by_cases among : gone ∈ newer ++ later
    · exact (ih (newer ++ later) gone among absent stays remains).imp_right
        fun ⟨same, order⟩ => ⟨same, order.trans fewer⟩
    -- the first to go: it is older than all before it, and stands before the others as old
    · have here : gone = first := by
        simp only [List.mem_append, List.mem_cons] at member among
        tauto
      subst here
      rcases List.mem_append.mp (dropOldestOf_sublist.subset remains) with early | late
      · exact .inl (strictly stays early)
      · refine (weakly stays late).lt_or_eq.imp_right fun same => ⟨same, ?_⟩
        exact ((List.singleton_sublist.mpr late).cons_cons gone).trans (List.sublist_append_right newer _)

/-- What is older than what was kept at a moment. -/
def older {κ : Type} (moment : τ) (entries : List (κ × CachedTags τ)) : List (κ × CachedTags τ) :=
  entries.filter fun entry => value entry.2.created < value moment

/-- What is gone is among the oldest. -/
theorem Thinned.older_lt (thinned : Thinned count before after) {gone : String × CachedTags τ}
    (member : gone ∈ before) (absent : gone ∉ after) :
    (older gone.2.created before).length < count := by
  -- What stays is not older, and neither is what is gone.
  have rest : after.Sublist
      (before.filter fun other => ¬ value other.2.created < value gone.2.created) := by
    have none : (after.filter fun other => ¬ value other.2.created < value gone.2.created) = after := by
      refine List.filter_eq_self.mpr fun stays remains => decide_eq_true (not_lt.mpr ?_)
      rcases thinned.oldest gone member absent stays remains with less | ⟨same, -⟩
      · exact less.le
      · exact same.le
    exact none ▸ thinned.kept.filter _
  have fewer : after.length <
      (before.filter fun other => ¬ value other.2.created < value gone.2.created).length := by
    refine rest.length_le.lt_of_ne fun same => absent (rest.eq_of_length same ▸ ?_)
    exact List.mem_filter.mpr ⟨member, decide_eq_true (lt_irrefl _)⟩
  have whole := List.length_eq_countP_add_countP
    (fun other : String × CachedTags τ => decide (value other.2.created < value gone.2.created))
    (l := before)
  simp only [List.countP_eq_length_filter, decide_eq_true_eq] at whole
  have number := thinned.number
  unfold older
  omega

/-! ### Keeping a result -/

/-- What is at most `span` old. -/
def unexpired {κ : Type} (span now : τ) (entries : List (κ × CachedTags τ)) :
    List (κ × CachedTags τ) :=
  entries.filter fun entry => value now - value entry.2.created ≤ value span

theorem length_unexpired_le {κ : Type} {entries : List (κ × CachedTags τ)} :
    (unexpired span now entries).length ≤ entries.length := List.length_filter_le _ _

private theorem filter_fresh :
    (cache.filter fun entry => !isOutdated span now entry.2) = unexpired span now cache := by
  refine List.filter_congr fun entry _ => ?_
  rw [isOutdated, ← decide_not, decide_eq_decide, lt_iff, value_sub, not_lt]

private theorem room_purged (full : capacity ≤ cache.length)
    (roomy : (unexpired span now cache).length < capacity) :
    room capacity span now cache = unexpired span now cache := by
  rw [room, if_pos (isFull_iff.mpr full), evict, filter_fresh]
  exact if_neg (not_isFull_iff.mpr roomy)

private theorem room_thinned (full : capacity ≤ cache.length)
    (crowded : capacity ≤ (unexpired span now cache).length) :
    Thinned (max 1 (capacity / 10)).toNat (unexpired span now cache) (room capacity span now cache) := by
  rw [room, if_pos (isFull_iff.mpr full), evict, filter_fresh, if_pos (isFull_iff.mpr crowded)]
  exact thinned_dropOldestOf _ _

omit [TimeScale τ] [ExactScale τ] in
private theorem others_put :
    ((put key entry cache).filter fun other => other.1 ≠ key) =
      cache.filter fun other => other.1 ≠ key := by
  induction cache with
  | nil => simp [puts.empty]
  | cons head rest ih =>
    obtain ⟨name, old⟩ := head
    by_cases here : name = key
    · subst here
      simp [puts.here]
    · rw [puts.elsewhere _ _ _ _ _ here]
      simpa [here] using ih

omit [ExactScale τ] in
private theorem mem_insert_of_room {other : String} (stays : (other, entry) ∈ room capacity span now cache)
    (apart : other ≠ key) : (other, entry) ∈ insert capacity span now key tags cache := by
  have among : (other, entry) ∈ (room capacity span now cache).filter fun other => other.1 ≠ key :=
    List.mem_filter.mpr ⟨stays, decide_eq_true apart⟩
  have there : (other, entry) ∈ (put key ⟨tags, now⟩ (room capacity span now cache)).filter _ :=
    others_put ▸ among
  exact (List.mem_filter.mp there).1

/-- What is in time is lost only where the cache is full of it, and only what is among the oldest. -/
theorem mem_insert_or_older {other : String} (member : (other, entry) ∈ unexpired span now cache)
    (apart : other ≠ key) : (other, entry) ∈ insert capacity span now key tags cache ∨
      capacity ≤ (unexpired span now cache).length ∧
        (older entry.created (unexpired span now cache)).length < (max 1 (capacity / 10)).toNat := by
  by_cases stays : (other, entry) ∈ room capacity span now cache
  · exact .inl (mem_insert_of_room stays apart)
  · have full : capacity ≤ cache.length := by
      refine not_lt.mp fun roomy => stays ?_
      rw [room_roomy roomy]
      exact (List.mem_filter.mp member).1
    have crowded : capacity ≤ (unexpired span now cache).length := by
      refine not_lt.mp fun roomy => stays ?_
      rw [room_purged full roomy]
      exact member
    exact .inr ⟨crowded, (room_thinned full crowded).older_lt member stays⟩

/-- A result comes into a cache, of which some entries are kept. -/
structure Admitted (capacity : Int) (span now : τ) (key : String) (tags : List String)
    (before kept after : TagCache τ) : Prop where
  roomy : before.length < capacity → kept = before
  purged : capacity ≤ before.length → (unexpired span now before).length < capacity →
    kept = unexpired span now before
  thinned : capacity ≤ before.length → capacity ≤ (unexpired span now before).length →
    Thinned (max 1 (capacity / 10)).toNat (unexpired span now before) kept
  found : after.find? key = some ⟨tags, now⟩
  /-- A key that is kept keeps its place, and a new one comes last. -/
  keys : after.keys = if key ∈ kept.keys then kept.keys else kept.keys ++ [key]
  others : (after.filter fun other => other.1 ≠ key) = kept.filter fun other => other.1 ≠ key

/-- To keep a result costs nothing below capacity; else what is out of date, and no more if that is
enough; else the oldest tenth of the rest as well. -/
theorem admitted_insert (capacity : Int) (span now : τ) (key : String) (tags : List String)
    (cache : TagCache τ) :
    ∃ kept, Admitted capacity span now key tags cache kept (insert capacity span now key tags cache) :=
  ⟨room capacity span now cache, room_roomy, room_purged, room_thinned, find?_put_self key _ _,
    puts.keys_put, others_put⟩

/-- Of the two oldest, the one that came first makes room. -/
example : insert 3 10 5 "d" [] [("a", ⟨[], 3⟩), ("b", ⟨[], 1⟩), ("c", ⟨[], (1 : Int)⟩)] =
    [("a", ⟨[], 3⟩), ("c", ⟨[], 1⟩), ("d", ⟨[], 5⟩)] := rfl

end MemoAssist.TagCache

import MemoAssist.Proofs.Scope.Passing
import MemoAssist.Proofs.Tagging.CacheHistory
import MemoAssist.Proofs.Tagging.Keeping
import Mathlib.Data.List.Induction
import Mathlib.Data.List.Perm.Subperm

/-! What the cache still has. As long as no more contents with their tags were stored than it may
hold, it loses a result in time only where another that it had before is stored again while as many as
it may hold are in time. -/
namespace MemoAssist

variable {τ κ β : Type}

open ExactScale (value)

/-! ### An archive -/

/-- The last result for every content with its tags, as if there were no bound. -/
abbrev Archive (τ : Type) := List ((String × List String) × CachedTags τ)

/-- File a result as the last one for its content and tags. -/
def Archive.file (pair : String × List String) (entry : CachedTags τ) (archive : Archive τ) :
    Archive τ :=
  (archive.filter fun other => other.1 ≠ pair) ++ [(pair, entry)]

/-- The mark under which a result is kept in the cache. -/
def Archive.key (filed : (String × List String) × CachedTags τ) : String :=
  Tagging.cacheKey filed.1.1 filed.1.2

namespace Happening

def archives (archive : Archive τ) : Happening τ κ → Archive τ
  | .stored _ content existing tags now _ => archive.file (content, existing) ⟨tags, now⟩
  | .cleared => []
  | _ => archive

/-- From here on, what was stored for a content and tags is not the last that was, if it is kept
at all. -/
def Supersedes (pair : String × List String) : Happening τ κ → Prop
  | .stored _ content existing _ _ _ => (content, existing) = pair
  | .cleared => True
  | _ => False

variable {entry : Happening τ κ} {pair : String × List String} {archive : Archive τ}

theorem Supersedes.ends (supersedes : entry.Supersedes pair) :
    entry.Ends (Tagging.cacheKey pair.1 pair.2) := by
  cases entry with
  | stored => exact .inl (supersedes ▸ rfl)
  | cleared => trivial
  | _ => exact supersedes.elim

private theorem archives_of_not_ends (lasts : ∀ key, ¬ entry.Ends key) :
    entry.archives archive = archive := by
  cases entry with
  | stored => exact absurd (.inl rfl) (lasts _)
  | cleared => exact absurd trivial (lasts "")
  | _ => rfl

end Happening

/-- What was stored since the cache was cleared last. -/
def archive (log : List (Happening τ κ)) : Archive τ :=
  log.foldl (fun sofar entry => entry.archives sofar) []

variable {log entries : List (Happening τ κ)} {entry : Happening τ κ}
  {pair other : String × List String} {result old : CachedTags τ} {file : Archive τ}

/-! ### What is in the archive -/

namespace Archive

theorem mem_file : (other, old) ∈ file.file pair result ↔
    other = pair ∧ old = result ∨ other ≠ pair ∧ (other, old) ∈ file := by
  simp only [Archive.file, List.mem_append, List.mem_filter, List.mem_singleton, Prod.mk.injEq,
    decide_eq_true_iff]
  tauto

private theorem pairs_file : (file.file pair result).map Prod.fst =
    ((file.map Prod.fst).filter fun other => other ≠ pair) ++ [pair] := by
  rw [Archive.file, List.map_append, List.filter_map]
  rfl

private theorem nodup_file (distinct : (file.map Prod.fst).Nodup) :
    ((file.file pair result).map Prod.fst).Nodup := by
  rw [pairs_file, ← List.concat_eq_append]
  exact (distinct.filter _).concat fun member => of_decide_eq_true (List.mem_filter.mp member).2 rfl

/-- There is one more only if there was nothing for the content and tags. -/
theorem length_file (distinct : (file.map Prod.fst).Nodup) : (file.file pair result).length =
    if pair ∈ file.map Prod.fst then file.length else file.length + 1 := by
  have erased : (file.map Prod.fst).filter (fun other => other ≠ pair) =
      (file.map Prod.fst).erase pair := by
    rw [distinct.erase_eq_filter]
    exact List.filter_congr fun other _ => by by_cases same : other = pair <;> simp [same]
  rw [← List.length_map (f := Prod.fst), pairs_file, erased, List.length_append, List.length_singleton]
  split
  · next there =>
    rw [List.length_erase_of_mem there, List.length_map]
    have := List.length_pos_of_mem there
    rw [List.length_map] at this
    omega
  · next absent => rw [List.erase_of_not_mem absent, List.length_map]

private theorem length_le_file (distinct : (file.map Prod.fst).Nodup) :
    file.length ≤ (file.file pair result).length := by
  rw [length_file distinct]
  split <;> omega

private theorem mem_of_length_file (distinct : (file.map Prod.fst).Nodup)
    (few : (file.file pair result).length ≤ file.length) : pair ∈ file.map Prod.fst := by
  by_contra absent
  rw [length_file distinct, if_neg absent] at few
  omega

end Archive

theorem archive_note : archive (log ++ [entry]) = entry.archives (archive log) := by
  rw [archive, List.foldl_append]
  rfl

private theorem archive_append (lasts : ∀ entry ∈ entries, ∀ key, ¬ entry.Ends key) :
    archive (log ++ entries) = archive log := by
  rw [archive, List.foldl_append]
  exact foldl_of_idle fun entry member => Happening.archives_of_not_ends (lasts entry member)

theorem nodup_archive (log : List (Happening τ κ)) : ((archive log).map Prod.fst).Nodup := by
  induction log using List.reverseRecOn with
  | nil => exact List.nodup_nil
  | append_singleton log entry ih =>
    rw [archive_note]
    cases entry with
    | stored => exact Archive.nodup_file ih
    | cleared => exact List.nodup_nil
    | _ => exact ih

/-- The last that was stored is in the archive. -/
theorem archived_of_last {earlier : List (Happening τ κ)} {asker : Asker} {content : String}
    {existing tags evicted : List String} {moment : τ}
    (last : ∀ entry ∈ entries, ¬ entry.Supersedes (content, existing)) :
    ((content, existing), ⟨tags, moment⟩) ∈
      archive (earlier ++ .stored asker content existing tags moment evicted :: entries) := by
  induction entries using List.reverseRecOn with
  | nil =>
    rw [archive_note]
    exact Archive.mem_file.mpr (.inl ⟨rfl, rfl⟩)
  | append_singleton entries entry ih =>
    have ih := ih fun entry member => last entry (List.mem_append_left _ member)
    rw [← List.cons_append, ← List.append_assoc, archive_note]
    have stays := last entry (List.mem_append_right _ List.mem_cons_self)
    cases entry with
    | stored => exact Archive.mem_file.mpr (.inr ⟨Ne.symm stays, ih⟩)
    | cleared => exact absurd trivial stays
    | _ => exact ih

/-- What is in the archive was stored, and nothing has superseded it. -/
theorem last_of_archived {content : String} {existing : List String}
    (filed : ((content, existing), result) ∈ archive log) : ∃ earlier asker evicted later,
      log = earlier ++ .stored asker content existing result.tags result.created evicted :: later ∧
        ∀ entry ∈ later, ¬ entry.Supersedes (content, existing) := by
  induction log using List.reverseRecOn with
  | nil => exact (List.not_mem_nil filed).elim
  | append_singleton log entry ih =>
    have before (filed : ((content, existing), result) ∈ archive log)
        (stays : ¬ entry.Supersedes (content, existing)) : ∃ earlier asker evicted later,
          log ++ [entry] =
              earlier ++ .stored asker content existing result.tags result.created evicted :: later ∧
            ∀ entry ∈ later, ¬ entry.Supersedes (content, existing) := by
      obtain ⟨earlier, asker, evicted, later, rfl, last⟩ := ih filed
      refine ⟨earlier, asker, evicted, later ++ [entry], by simp, fun other member => ?_⟩
      rcases List.mem_append.mp member with among | new
      · exact last other among
      · exact List.mem_singleton.mp new ▸ stays
    rw [archive_note] at filed
    cases entry with
    | stored asker _ _ _ _ evicted =>
      rcases Archive.mem_file.mp filed with ⟨same, rfl⟩ | ⟨other, filed⟩
      · cases same
        exact ⟨log, asker, evicted, [], rfl, fun _ none => (List.not_mem_nil none).elim⟩
      · exact before filed (Ne.symm other)
    | cleared => exact (List.not_mem_nil filed).elim
    | _ => exact before filed id

theorem Marked.append {content : String} {existing : List String}
    (marked : Marked log content existing) : Marked (log ++ entries) content existing := by
  rw [Marked, List.filterMap_append]
  exact List.mem_append_left _ marked

private theorem marked_of_archived (filed : (pair, result) ∈ archive log) : Marked log pair.1 pair.2 := by
  obtain ⟨earlier, asker, evicted, later, rfl, -⟩ := last_of_archived filed
  exact marked_of_mem (List.mem_append_right _ List.mem_cons_self) rfl

/-- Whatever is stored makes no archive shorter. -/
theorem length_archive_le (lasts : .cleared ∉ entries) :
    (archive log).length ≤ (archive (log ++ entries)).length := by
  induction entries using List.reverseRecOn with
  | nil => rw [List.append_nil]
  | append_singleton entries entry ih =>
    refine (ih fun member => lasts (List.mem_append_left _ member)).trans ?_
    rw [← List.append_assoc, archive_note]
    cases entry with
    | stored => exact Archive.length_le_file (nodup_archive _)
    | cleared => exact absurd (List.mem_append_right _ List.mem_cons_self) lasts
    | _ => exact le_rfl

/-! ### What may be lost -/

/-- No two contents with their tags whose marks were taken have the same mark. -/
def Apart (log : List (Happening τ κ)) : Prop :=
  ∀ pair other : String × List String, Marked log pair.1 pair.2 → Marked log other.1 other.2 →
    Tagging.cacheKey pair.1 pair.2 = Tagging.cacheKey other.1 other.2 → pair = other

private theorem apart_of_unmistakable (marks : Unmistakable log)
    (fitting : ∀ content existing, Marked log content existing → Tagging.Fitting content existing) :
    Apart log := by
  intro pair other marked marked' same
  obtain ⟨content, existing⟩ := Tagging.cacheText_inj (fitting _ _ marked) (fitting _ _ marked')
    (marks _ _ _ _ marked marked' same)
  exact Prod.ext content existing

theorem Apart.before (apart : Apart (log ++ entries)) : Apart log :=
  fun pair other marked marked' => apart pair other marked.append marked'.append

theorem Apart.archived (apart : Apart log) {first second : (String × List String) × CachedTags τ}
    (filed : first ∈ archive log) (filed' : second ∈ archive log)
    (same : Archive.key first = Archive.key second) : first = second :=
  entry_eq (nodup_archive log) filed filed'
    (apart first.1 second.1 (marked_of_archived filed) (marked_of_archived filed') same)

section Timed

variable [TimeScale τ] [ExactScale τ] {capacity : Int} {span : τ}

/-- Since the last result for a content and tags was stored at a moment, one was stored for others that
had one already, when as many as the capacity were in time and this one was among the oldest. -/
def Displaced (capacity : Int) (span : τ) (log : List (Happening τ κ)) (pair : String × List String)
    (moment : τ) : Prop :=
  ∃ earlier asker content existing tags now evicted later,
    log = earlier ++ .stored asker content existing tags now evicted :: later ∧
      (∀ entry ∈ .stored asker content existing tags now evicted :: later, ¬ entry.Supersedes pair) ∧
        (content, existing) ∈ (archive earlier).map Prod.fst ∧
          capacity ≤ (TagCache.unexpired span now (archive earlier)).length ∧
            (TagCache.older moment (archive earlier)).length < (max 1 (capacity / 10)).toNat

theorem Displaced.append {moment : τ} (displaced : Displaced capacity span log pair moment)
    (lasts : ∀ entry ∈ entries, ¬ entry.Supersedes pair) :
    Displaced capacity span (log ++ entries) pair moment := by
  obtain ⟨earlier, asker, content, existing, tags, now, evicted, later, rfl, since, crowded⟩ := displaced
  refine ⟨earlier, asker, content, existing, tags, now, evicted, later ++ entries, by simp, ?_, crowded⟩
  rw [← List.cons_append]
  intro entry member
  rcases List.mem_append.mp member with before | after
  · exact since entry before
  · exact lasts entry after

/-- As long as there is room for one more, nothing is lost. -/
theorem not_displaced {moment : τ} (spare : (archive log).length < capacity) :
    ¬ Displaced capacity span log pair moment := by
  rintro ⟨earlier, asker, content, existing, tags, now, evicted, later, rfl, since, -, crowded, -⟩
  have fewer : (archive earlier).length ≤ (archive (earlier ++ _)).length :=
    length_archive_le fun cleared => since _ cleared trivial
  have inTime : (TagCache.unexpired span now (archive earlier)).length ≤ _ :=
    TagCache.length_unexpired_le
  omega

end Timed

/-- Time does not go back, whatever the rest of the program does. -/
theorem Elsewhere.forward [TimeScale τ] [TrueScale τ] {world : World τ} (e : Elsewhere τ) :
    value world.time.now ≤ value (e.work world).2.time.now := by
  cases e with
  | openScope | cancel | cancelAfter | draw | report => exact le_rfl
  | advance span => exact (Timeline.advance_settles : Timeline.Settles 0 _ _).forward
  | sleep id span => exact (Timeline.sleep_settles world.time id span).1.forward
  | send attempt =>
    change _ ≤ value (World.send attempt world).2.time.now
    simp only [World.send]
    cases (world.client world.sent.length).delay with
    | none => exact le_rfl
    | some span => exact (Timeline.advance_settles : Timeline.Settles 0 _ _).forward

namespace Office

variable [TimeScale τ]

section Exact

variable [ExactScale τ] {o o' : Office τ κ β}

/-- What is in the cache was stored last for its content and tags; and what was stored last is there
as long as it is in time, unless it was displaced or more was stored than the cache may hold. -/
structure Filed (o : Office τ κ β) : Prop where
  shelved : o.Shelved
  traced : ∀ key entry, (key, entry) ∈ o.tagger.cache → ∃ pair : String × List String,
    Tagging.cacheKey pair.1 pair.2 = key ∧ (pair, entry) ∈ archive o.log
  retains : Apart o.log → (archive o.log).length ≤ o.tagger.config.cacheCapacity →
    ∀ pair entry, (pair, entry) ∈ archive o.log →
      value o.now - value entry.created ≤ value o.tagger.config.cacheSpan →
        (Tagging.cacheKey pair.1 pair.2, entry) ∈ o.tagger.cache ∨
          Displaced o.tagger.config.cacheCapacity o.tagger.config.cacheSpan o.log pair entry.created

theorem Spares.filed (spares : o.Spares o') (filed : o.Filed) : o'.Filed where
  shelved := spares.shelved filed.shelved
  traced key entry member := by
    obtain ⟨entries, log, silent⟩ := spares.log
    rw [log, archive_append silent]
    exact filed.traced key entry (spares.cache ▸ member)
  retains apart few pair entry last inTime := by
    obtain ⟨entries, log, silent⟩ := spares.log
    rw [log] at apart
    rw [log, archive_append silent] at few last
    rw [spares.config] at few inTime ⊢
    rw [spares.now] at inTime
    rw [spares.cache, log]
    refine (filed.retains apart.before few pair entry last inTime).imp_right fun displaced => ?_
    exact displaced.append fun entry member supersedes => silent entry member _ supersedes.ends

private theorem Filed.nodup_unexpired (filed : o.Filed) {span : τ} :
    (TagCache.keys (TagCache.unexpired span o.now o.tagger.cache)).Nodup :=
  filed.shelved.distinct.sublist (List.filter_sublist.map Prod.fst)

private theorem Filed.keys_subset (filed : o.Filed) {span : τ} :
    TagCache.keys (TagCache.unexpired span o.now o.tagger.cache) ⊆
      (TagCache.unexpired span o.now (archive o.log)).map Archive.key := by
  intro key listed
  obtain ⟨⟨key, entry⟩, member, rfl⟩ := List.mem_map.mp listed
  obtain ⟨held, inTime⟩ := List.mem_filter.mp member
  obtain ⟨pair, rfl, last⟩ := filed.traced key entry held
  exact List.mem_map.mpr ⟨(pair, entry), List.mem_filter.mpr ⟨last, inTime⟩, rfl⟩

/-- The cache has no more in time than the archive. -/
theorem Filed.unexpired_le (filed : o.Filed) {span : τ} :
    (TagCache.unexpired span o.now o.tagger.cache).length ≤
      (TagCache.unexpired span o.now (archive o.log)).length := by
  simpa only [TagCache.keys, List.length_map] using
    filed.nodup_unexpired.length_le_of_subset filed.keys_subset

/-- If as many are in time in the cache as there are in the archive, everything is. -/
theorem Filed.held_of_full (filed : o.Filed) (apart : Apart o.log) {span : τ}
    (full : (archive o.log).length ≤ (TagCache.unexpired span o.now o.tagger.cache).length)
    (last : (pair, result) ∈ archive o.log) :
    (Tagging.cacheKey pair.1 pair.2, result) ∈ TagCache.unexpired span o.now o.tagger.cache := by
  have inside : TagCache.keys (TagCache.unexpired span o.now o.tagger.cache) ⊆
      (archive o.log).map Archive.key :=
    List.Subset.trans filed.keys_subset (List.filter_sublist.map Archive.key).subset
  -- Distinct keys among others that are no more are all of them.
  have same := (List.subperm_of_subset filed.nodup_unexpired inside).perm_of_length_le
    (by simpa only [TagCache.keys, List.length_map] using full)
  have listed := same.mem_iff.mpr (List.mem_map_of_mem last)
  obtain ⟨⟨key, entry⟩, member, here⟩ := List.mem_map.mp listed
  obtain ⟨other, there, filed'⟩ := filed.traced key entry (List.mem_filter.mp member).1
  cases apart.archived filed' last (there.trans here)
  obtain rfl : key = Tagging.cacheKey pair.1 pair.2 := here
  exact member

/-- If everything is in time in the cache, what is older in the archive is older there. -/
theorem Filed.older_le (filed : o.Filed) (apart : Apart o.log) {span moment : τ}
    (full : (archive o.log).length ≤ (TagCache.unexpired span o.now o.tagger.cache).length) :
    (TagCache.older moment (archive o.log)).length ≤
      (TagCache.older moment (TagCache.unexpired span o.now o.tagger.cache)).length := by
  have inside : (TagCache.older moment (archive o.log)).map Archive.key ⊆
      TagCache.keys (TagCache.older moment (TagCache.unexpired span o.now o.tagger.cache)) := by
    intro key listed
    obtain ⟨⟨pair, entry⟩, member, rfl⟩ := List.mem_map.mp listed
    obtain ⟨last, less⟩ := List.mem_filter.mp member
    exact TagCache.mem_keys (List.mem_filter.mpr ⟨filed.held_of_full apart full last, less⟩)
  have distinct : ((TagCache.older moment (archive o.log)).map Archive.key).Nodup := by
    refine List.Nodup.map_on (fun first member second member' same => ?_) ?_
    · exact apart.archived (List.mem_filter.mp member).1 (List.mem_filter.mp member').1 same
    · exact (List.Nodup.of_map _ (nodup_archive o.log)).filter _
  simpa only [TagCache.keys, List.length_map] using distinct.length_le_of_subset inside

theorem Filed.kept {asker : Asker} {content : String} {existing tags : List String} (filed : o.Filed) :
    (o.kept asker content existing tags).Filed where
  shelved := filed.shelved.kept
  traced key entry member := by
    change ∃ pair : String × List String, _ ∧ _ ∈ archive (o.log ++ [_])
    rw [archive_note]
    rcases TagCache.mem_insert filed.shelved.distinct member with ⟨rfl, rfl⟩ | ⟨apart, before⟩
    · exact ⟨(content, existing), rfl, Archive.mem_file.mpr (.inl ⟨rfl, rfl⟩)⟩
    · obtain ⟨pair, rfl, last⟩ := filed.traced key entry before
      exact ⟨pair, rfl, Archive.mem_file.mpr (.inr ⟨fun same => apart (same ▸ rfl), last⟩)⟩
  retains apart few pair entry last inTime := by
    change Apart (o.log ++ [_]) at apart
    change ((archive (o.log ++ [_])).length : Int) ≤ o.tagger.config.cacheCapacity at few
    change _ ∈ archive (o.log ++ [_]) at last
    rw [archive_note, storing, Happening.archives] at few last
    rcases Archive.mem_file.mp last with ⟨rfl, rfl⟩ | ⟨other, before⟩
    · exact .inl TagCache.mem_insert_self
    have stays : ∀ entry ∈ [o.storing asker content existing tags], ¬ entry.Supersedes pair :=
      fun entry member supersedes => other ((List.mem_singleton.mp member ▸ supersedes).symm)
    have key : Tagging.cacheKey pair.1 pair.2 ≠ Tagging.cacheKey content existing := fun same =>
      other (apart pair (content, existing) (marked_of_archived before).append
        (marked_of_mem (List.mem_append_right _ List.mem_cons_self) rfl) same)
    have fewer : (archive o.log).length ≤ o.tagger.config.cacheCapacity :=
      (Int.ofNat_le.mpr (Archive.length_le_file (nodup_archive _))).trans few
    rcases filed.retains apart.before fewer pair entry before inTime with held | displaced
    · rcases TagCache.mem_insert_or_older (List.mem_filter.mpr ⟨held, decide_eq_true inTime⟩) key
        with there | ⟨full, oldest⟩
      · exact .inl there
      · have all : (archive o.log).length ≤
            (TagCache.unexpired o.tagger.config.cacheSpan o.now o.tagger.cache).length :=
          Int.ofNat_le.mp (fewer.trans full)
        have crowded := full.trans (Int.ofNat_le.mpr filed.unexpired_le)
        -- There is room in the archive for nothing that is new.
        have again := Archive.mem_of_length_file (nodup_archive _) (Int.ofNat_le.mp
          (few.trans (crowded.trans (Int.ofNat_le.mpr TagCache.length_unexpired_le))))
        exact .inr ⟨o.log, asker, content, existing, tags, o.now, _, [], rfl, stays, again, crowded,
          (filed.older_le apart.before all).trans_lt oldest⟩
    · exact .inr (displaced.append stays)

theorem Filed.wiped : o.wiped.Filed where
  shelved := Shelved.wiped
  traced _ _ member := (List.not_mem_nil member).elim
  retains _ _ pair entry last := by
    change (pair, entry) ∈ archive (o.log ++ [.cleared]) at last
    rw [archive_note] at last
    exact (List.not_mem_nil last).elim

end Exact

variable [TrueScale τ] {o o' : Office τ κ β}

theorem Filed.elsewhere (e : Elsewhere τ) (filed : o.Filed) :
    (o.after (Room.onWorld e.work)).Filed where
  shelved := ⟨filed.shelved.capped, filed.shelved.distinct, filed.shelved.holds⟩
  traced := filed.traced
  retains apart few pair entry last inTime := by
    refine filed.retains apart few pair entry last (le_trans ?_ inTime)
    exact sub_le_sub_right e.forward _

theorem CacheStep.filed (step : CacheStep o o') (filed : o.Filed) : o'.Filed := by
  cases step with
  | spares spares => exact spares.filed filed
  | passes e meanwhile => exact meanwhile ▸ filed.elsewhere e
  | keeps asker content existing tags spares => exact spares.filed filed.kept
  | clears now => exact now ▸ Filed.wiped

theorem Leads.filed (leads : Leads o o') (filed : o.Filed) : o'.Filed := by
  induction leads with
  | refl => exact filed
  | tail _ step ih => exact step.cache.filed ih

variable {config : TaggingConfig τ} {world : World τ} {partner : β} {crew : Nat}

omit [TrueScale τ] in
private theorem filed_start [ExactScale τ] : (start config world partner crew : Office τ κ β).Filed where
  shelved := shelved_start
  traced _ _ member := (List.not_mem_nil member).elim
  retains _ _ _ _ last := (List.not_mem_nil last).elim

end Office

/-! ### Two contents, one of them twice -/

/-- Where two results fill a cache, the first makes room for the second when that comes again. -/
theorem TagCache.insert_again {a b : String} (apart : a ≠ b) :
    insert 2 900000000 0 b ["z"] (insert 2 900000000 0 b ["y"]
      (insert 2 900000000 0 a ["x"] ([] : TagCache Int))) = [(b, ⟨["z"], 0⟩)] := by
  have first : insert 2 900000000 0 a ["x"] ([] : TagCache Int) = [(a, ⟨["x"], 0⟩)] := rfl
  have second : insert 2 900000000 0 b ["y"] [(a, ⟨["x"], (0 : Int)⟩)] =
      [(a, ⟨["x"], 0⟩), (b, ⟨["y"], 0⟩)] :=
    (if_neg apart : put b ⟨["y"], (0 : Int)⟩ [(a, ⟨["x"], 0⟩)] = _)
  have third : insert 2 900000000 0 b ["z"] [(a, ⟨["x"], (0 : Int)⟩), (b, ⟨["y"], 0⟩)] =
      [(b, ⟨["z"], 0⟩)] :=
    (if_pos rfl : put b ⟨["z"], (0 : Int)⟩ [(b, ⟨["y"], 0⟩)] = _)
  rw [first, second, third]

namespace Office

theorem keys_apart : Tagging.cacheKey "a" [] ≠ Tagging.cacheKey "b" [] := by decide +kernel

/-- Three clients find nothing, two of them for the same content, and each keeps what it gets then. -/
theorem storedTwice (capacity : Int) : ∃ o : Office Int Unit Unit,
    Leads (start { TaggingConfig.usual with cacheCapacity := capacity }
      (World.start (Client.ofReplies [])) () 0) o ∧
      value o.now - value (0 : Int) ≤ value (TaggingConfig.usual : TaggingConfig Int).cacheSpan ∧
        Unmistakable o.log ∧
        (∀ content existing, Marked o.log content existing → Tagging.Fitting content existing) ∧
          archive o.log = [(("a", []), ⟨["x"], 0⟩), (("b", []), ⟨["z"], 0⟩)] ∧
            o.tagger.cache = TagCache.insert capacity 900000000 0 (Tagging.cacheKey "b" []) ["z"]
              (TagCache.insert capacity 900000000 0 (Tagging.cacheKey "b" []) ["y"]
                (TagCache.insert capacity 900000000 0 (Tagging.cacheKey "a" []) ["x"] [])) := by
  let d : Demand := ⟨1, "a", [], .now 0⟩
  let d' : Demand := ⟨1, "b", [], .now 0⟩
  have run : ∃ o : Office Int Unit Unit,
      Leads (start { TaggingConfig.usual with cacheCapacity := capacity }
        (World.start (Client.ofReplies [])) () 0) o ∧
        o.now = 0 ∧ o.log.filterMap Happening.marked? =
          [("a", []), ("b", []), ("b", []), ("a", []), ("b", []), ("b", [])] ∧
          archive o.log = [(("a", []), ⟨["x"], 0⟩), (("b", []), ⟨["z"], 0⟩)] ∧
            o.tagger.cache = TagCache.insert capacity 900000000 0 (Tagging.cacheKey "b" []) ["z"]
              (TagCache.insert capacity 900000000 0 (Tagging.cacheKey "b" []) ["y"]
                (TagCache.insert capacity 900000000 0 (Tagging.cacheKey "a" []) ["x"] [])) :=
    ⟨_, .tail (.tail (.tail (.tail (.tail (.tail (.tail (.tail (.tail (.tail (.tail (.tail (.tail
      (.tail (.tail (.tail (.tail (.tail (.tail (.tail (.tail (.tail (.tail (.tail (.tail (.tail
      (.tail .refl
      (.aside (.call (c := 0) (d := d) rfl)))
      (.call clients_client (.enter rfl)))
      (.call clients_client .read))
      (.call clients_client (.grant rfl)))
      (.call clients_client (.miss rfl)))
      (.aside (.call (c := 1) (d := d') rfl)))
      (.call clients_client (.enter rfl)))
      (.call clients_client .read))
      (.call clients_client (.grant rfl)))
      (.call clients_client (.miss rfl)))
      (.aside (.call (c := 2) (d := d') rfl)))
      (.call clients_client (.enter rfl)))
      (.call clients_client .read))
      (.call clients_client (.grant rfl)))
      (.call clients_client (.miss rfl)))
      (.call (c := 0) rfl (.openInner rfl rfl)))
      (.call clients_client .ask))
      (.call clients_client (@CallStep.answer Int Unit Unit _ 0 d _ { tags := ["x"] })))
      (.call clients_client .keep))
      (.call (c := 1) rfl (.openInner rfl rfl)))
      (.call clients_client .ask))
      (.call clients_client (@CallStep.answer Int Unit Unit _ 1 d' _ { tags := ["y"] })))
      (.call clients_client .keep))
      (.call (c := 2) rfl (.openInner rfl rfl)))
      (.call clients_client .ask))
      (.call clients_client (@CallStep.answer Int Unit Unit _ 2 d' _ { tags := ["z"] })))
      (.call clients_client .keep), rfl, by
        simp only [log_client, log_note, log_after, List.filterMap_cons, List.filterMap_nil,
          Happening.marked?, recalling, asking, storing, start, List.nil_append, List.cons_append]
        rfl, by
        simp only [log_client, log_note, log_after, archive_note, Happening.archives, Archive.file,
          recalling, asking, storing, start]
        rfl, rfl⟩
  obtain ⟨o, leads, now, marked, filed, cache⟩ := run
  have only (content : String) (existing : List String) (marks : Marked o.log content existing) :
      (content = "a" ∨ content = "b") ∧ existing = [] := by
    simp only [Marked, marked, List.mem_cons, Prod.mk.injEq, List.not_mem_nil, or_false] at marks
    tauto
  refine ⟨o, leads, ?_, ?_, ?_, filed, cache⟩
  · change (o.now : ℚ) - ((0 : Int) : ℚ) ≤ ((900000000 : Int) : ℚ)
    rw [now]
    norm_num
  · intro content existing content' existing' marks marks' same
    obtain ⟨rfl | rfl, rfl⟩ := only content existing marks <;>
      obtain ⟨rfl | rfl, rfl⟩ := only content' existing' marks'
    · rfl
    · exact absurd same keys_apart
    · exact absurd same.symm keys_apart
    · rfl
  · intro content existing marks part member
    obtain ⟨rfl | rfl, rfl⟩ := only content existing marks <;>
      obtain rfl := List.mem_singleton.mp member <;> decide

/-! ### What is found -/

variable [TimeScale τ] [TrueScale τ] {o : Office τ κ β} {config : TaggingConfig τ} {world : World τ}
  {partner : β} {crew : Nat}

/-- Where no more was stored since the cache was cleared than it may hold, what was stored last for a
content and tags is found as long as it is in time, and not after, unless it was displaced. To store
anything drops nothing else that is in time, unless the cache is full of it and this is among the
oldest. -/
theorem cacheRetained (leads : Leads (start config world partner crew) o) (marks : Unmistakable o.log)
    (fitting : ∀ content existing, Marked o.log content existing → Tagging.Fitting content existing)
    (few : (archive o.log).length ≤ config.cacheCapacity)
    {earlier later : List (Happening τ κ)} {asker : Asker} {content : String}
    {existing tags evicted : List String} {moment : τ}
    (log : o.log = earlier ++ .stored asker content existing tags moment evicted :: later)
    (last : ∀ entry ∈ later, ¬ entry.Supersedes (content, existing)) :
    (value config.cacheSpan < value o.now - value moment →
      (Tagging.cached content existing o.room).1 = .ok none) ∧
    (value o.now - value moment ≤ value config.cacheSpan →
      ¬ Displaced config.cacheCapacity config.cacheSpan o.log (content, existing) moment →
        (Tagging.cached content existing o.room).1 = .ok (some tags)) ∧
    ∀ content' existing' tags' other entry,
      (other, entry) ∈ TagCache.unexpired config.cacheSpan o.now o.tagger.cache →
        other ≠ Tagging.cacheKey content' existing' →
          (other, entry) ∈ (o.after (Tagging.keep content' existing' tags')).tagger.cache ∨
            config.cacheCapacity ≤
              (TagCache.unexpired config.cacheSpan o.now o.tagger.cache).length ∧
            (TagCache.older entry.created
              (TagCache.unexpired config.cacheSpan o.now o.tagger.cache)).length <
                (max 1 (config.cacheCapacity / 10)).toNat := by
  have filed := leads.filed filed_start
  have apart := apart_of_unmistakable marks fitting
  have archived : ((content, existing), ⟨tags, moment⟩) ∈ archive o.log := by
    rw [log]
    exact archived_of_last last
  obtain rfl : config = o.tagger.config := leads.steady.config.symm
  refine ⟨fun expired => ?_, fun inTime undisturbed => ?_, fun content' existing' tags' other entry => ?_⟩
  · cases found : o.tagger.cache.lookUp o.tagger.config.cacheSpan o.now
      (Tagging.cacheKey content existing) with
    | none => exact congrArg Except.ok found
    | some served =>
      obtain ⟨entry, held, rfl, fresh⟩ := TagCache.lookUp_some found
      obtain ⟨pair, key, before⟩ := filed.traced _ entry held
      have same := apart.archived before archived key
      rw [ExactScale.lt_iff, ExactScale.value_sub, (Prod.mk.inj same).2] at fresh
      exact absurd expired fresh
  · rcases filed.retains apart few _ _ archived inTime with held | displaced
    · refine congrArg Except.ok (TagCache.lookUp_of_mem filed.shelved.distinct held ?_)
      rw [ExactScale.lt_iff, ExactScale.value_sub]
      exact not_lt.mpr inTime
    · exact absurd displaced undisturbed
  · exact fun member apart => TagCache.mem_insert_or_older member apart

/-- Where one more may be kept, what is stored again costs nothing. -/
theorem cacheRetained_of_spare : ∃ o : Office Int Unit Unit,
    Leads (start { TaggingConfig.usual with cacheCapacity := 3 }
      (World.start (Client.ofReplies [])) () 0) o ∧
      (archive o.log).length ≤ 3 ∧ (Tagging.cached "a" [] o.room).1 = .ok (some ["x"]) := by
  obtain ⟨o, leads, inTime, marks, fitting, filed, -⟩ := storedTwice 3
  have archived : (("a", []), ⟨["x"], 0⟩) ∈ archive o.log := filed ▸ List.mem_cons_self
  have size : (archive o.log).length = 2 := congrArg List.length filed
  obtain ⟨earlier, asker, evicted, later, log, last⟩ := last_of_archived archived
  have few : (archive o.log).length ≤ (3 : Int) := by omega
  obtain ⟨-, found, -⟩ := cacheRetained leads marks fitting few log last
  refine ⟨o, leads, by omega, found inTime (not_displaced ?_)⟩
  change ((archive o.log).length : Int) < 3
  omega

/-- Where as many were stored as may be kept, one of which was stored again, another is lost in time. -/
theorem lost_of_full : ∃ (o : Office Int Unit Unit) (earlier later : List (Happening Int Unit))
    (asker : Asker) (evicted : List String),
    Leads (start { TaggingConfig.usual with cacheCapacity := 2 }
      (World.start (Client.ofReplies [])) () 0) o ∧
      Unmistakable o.log ∧
        (∀ content existing, Marked o.log content existing → Tagging.Fitting content existing) ∧
          (archive o.log).length ≤ 2 ∧
            o.log = earlier ++ .stored asker "a" [] ["x"] 0 evicted :: later ∧
              (∀ entry ∈ later, ¬ entry.Supersedes ("a", [])) ∧
                value o.now - value (0 : Int) ≤
                  value (TaggingConfig.usual : TaggingConfig Int).cacheSpan ∧
                  (Tagging.cached "a" [] o.room).1 = .ok none := by
  obtain ⟨o, leads, inTime, marks, fitting, filed, cache⟩ := storedTwice 2
  have archived : (("a", []), ⟨["x"], 0⟩) ∈ archive o.log := filed ▸ List.mem_cons_self
  obtain ⟨earlier, asker, evicted, later, log, last⟩ := last_of_archived archived
  refine ⟨o, earlier, later, asker, evicted, leads, marks, fitting, (congrArg List.length filed).le,
    log, last, inTime, congrArg Except.ok ?_⟩
  change TagCache.lookUp _ _ _ o.tagger.cache = _
  rw [cache, TagCache.insert_again keys_apart]
  simp [TagCache.lookUp, TagCache.find?, keys_apart.symm]

end Office

end MemoAssist

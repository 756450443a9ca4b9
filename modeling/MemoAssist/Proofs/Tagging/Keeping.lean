import MemoAssist.Proofs.Tagging.Chronicle
import MemoAssist.Proofs.Tagging.Eviction

namespace MemoAssist

variable {τ κ β : Type}

namespace Office

/-- The cache and the clock are left alone, and nothing is logged that takes anything away. -/
structure Spares (o o' : Office τ κ β) : Prop where
  config : o'.tagger.config = o.tagger.config
  cache : o'.tagger.cache = o.tagger.cache
  now : o'.now = o.now
  log : ∃ entries, o'.log = o.log ++ entries ∧ ∀ entry ∈ entries, ∀ key, ¬ entry.Ends key

variable {o o' : Office τ κ β} {c w : Nat} {d : Demand}

theorem Spares.refl : o.Spares o :=
  ⟨rfl, rfl, rfl, [], (List.append_nil _).symm, fun _ absent => (List.not_mem_nil absent).elim⟩

theorem Spares.client {errand : Errand τ} (spares : o.Spares o') : o.Spares (o'.client c errand) :=
  ⟨spares.config, spares.cache, spares.now, spares.log⟩

theorem Spares.worker {shift : Shift κ} (spares : o.Spares o') : o.Spares (o'.worker w shift) :=
  ⟨spares.config, spares.cache, spares.now, spares.log⟩

theorem Spares.note {entry : Happening τ κ} (spares : o.Spares o') (lasts : ∀ key, ¬ entry.Ends key) :
    o.Spares (o'.note entry) where
  config := spares.config
  cache := spares.cache
  now := spares.now
  log := by
    obtain ⟨entries, log, silent⟩ := spares.log
    refine ⟨entries ++ [entry], by rw [log_note, log, List.append_assoc], fun other member => ?_⟩
    rcases List.mem_append.mp member with before | last
    · exact silent other before
    · exact List.mem_singleton.mp last ▸ lasts

theorem Spares.reply {outcome : Except Fault Answer} (spares : o.Spares o') :
    o.Spares (o'.reply c d outcome) := spares.client.note fun _ => id

theorem spares_after {α : Type} {work : Room.Work τ κ β α}
    (tagger : (work o.room).2.tagger.config = o.tagger.config ∧
      (work o.room).2.tagger.cache = o.tagger.cache)
    (now : (work o.room).2.world.time.now = o.now) : o.Spares (o.after work) :=
  ⟨tagger.1, tagger.2, now, Spares.refl.log⟩

section Timed

variable [TimeScale τ]

/-- Somebody keeps a result. -/
def kept (asker : Asker) (content : String) (existing tags : List String) (o : Office τ κ β) :
    Office τ κ β :=
  (o.after (Tagging.keep content existing tags)).note (o.storing asker content existing tags)

/-- The cache is cleared. -/
def wiped (o : Office τ κ β) : Office τ κ β := (o.after Tagging.clearCache).note .cleared

/-- What a step means for the cache. -/
inductive CacheStep (o o' : Office τ κ β) : Prop where
  | spares (spares : o.Spares o')
  | passes (e : Elsewhere τ) (meanwhile : o' = o.after (Room.onWorld e.work))
  | keeps (asker : Asker) (content : String) (existing tags : List String)
      (spares : (o.kept asker content existing tags).Spares o')
  | clears (now : o' = o.wiped)

private theorem spares_after_job {memo : Int} : o.Spares (o.after (d.job memo)) := by
  obtain ⟨entropy, drawn⟩ := Tagging.newJob_room o.room d.user memo d.content d.existing
  apply spares_after <;> rw [Demand.job, drawn]
  · exact ⟨rfl, rfl⟩
  · rfl

private theorem spares_after_grant {now : τ} {user : Int} : o.Spares (o.after (Tagging.grantAt now user)) := by
  obtain ⟨quota, granted⟩ := Tagging.grantAt_room o.room now user
  apply spares_after <;> rw [granted]
  · exact ⟨rfl, rfl⟩
  · rfl

omit [TimeScale τ] in
private theorem spares_after_take {id : String} (found : (Tagging.takeWaiting o.room).1 = .ok (some id)) :
    o.Spares (o.after Tagging.takeWaiting) := by
  obtain ⟨queue, _, taken⟩ := Tagging.takeWaiting_some found
  apply spares_after <;> rw [taken]
  · exact ⟨rfl, rfl⟩
  · rfl

theorem CallStep.cache {stage : CallStage τ} (step : CallStep c d stage o o') : CacheStep o o' := by
  cases step with
  | enter | read | proceed | tooLate | full => exact .spares Spares.refl.client
  | lock => exact .spares (Spares.client ⟨rfl, rfl, rfl, Spares.refl.log⟩)
  | leave => exact .spares (Spares.reply ⟨rfl, rfl, rfl, Spares.refl.log⟩)
  | barred | serve => exact .spares Spares.refl.reply
  | grant => exact .spares spares_after_grant.client
  | overQuota => exact .spares spares_after_grant.reply
  | hit | miss | ask | answer => exact .spares (Spares.refl.note fun _ => id).client
  | serveJob => exact .spares (spares_after_job.note fun _ => id).reply
  | unserved | unnamed => exact .spares spares_after_job.reply
  | name => exact .spares (spares_after_job.note fun _ => id).client
  | record | withdraw | openInner => exact .spares (spares_after ⟨rfl, rfl⟩ rfl).client
  | accept queued =>
    refine .spares ((spares_after ?_ ?_).note fun _ => id).client
    all_goals rw [Tagging.offer_room _ (Tagging.offer_ok.mp queued)]
    · exact ⟨rfl, rfl⟩
    · rfl
  | fail => exact .spares (Spares.refl.note fun _ => id).reply
  | keep => exact .keeps _ _ _ _ Spares.refl.client
  | report => exact .spares (spares_after ⟨rfl, rfl⟩ rfl).reply

theorem StopStep.cache {stage : StopStage} (step : StopStep c stage o o') : CacheStep o o' := by
  cases step with
  | lock | goOn | goBack | signal => exact .spares (Spares.client ⟨rfl, rfl, rfl, Spares.refl.log⟩)
  | close => exact .spares (spares_after ⟨rfl, rfl⟩ rfl).client
  | late | join | joined | drained => exact .spares Spares.refl.client
  | cancel | fail | report =>
    exact .spares ((spares_after ⟨rfl, rfl⟩ rfl).note fun _ => id).client
  | take found => exact .spares (spares_after_take found).client

theorem ShiftStep.cache {shift : Shift κ} (step : ShiftStep w shift o o') : CacheStep o o' := by
  cases step with
  | look | go | rest | unknown | keepStill => exact .spares Spares.refl.worker
  | fetch found => exact .spares (spares_after_take found).worker
  | start found =>
    obtain ⟨old, _, _, _, begun⟩ := Tagging.beginJob_some found
    refine .spares ((spares_after ?_ ?_).note fun _ => id).worker
    all_goals rw [begun]
    · exact ⟨rfl, rfl⟩
    · rfl
  | openInner => exact .spares (spares_after ⟨rfl, rfl⟩ rfl).worker
  | ask | answer | fail | tell => exact .spares (Spares.refl.note fun _ => id).worker
  | keep => exact .keeps _ _ _ _ Spares.refl.worker
  | publish => exact .spares ((spares_after ⟨rfl, rfl⟩ rfl).note fun _ => id).worker

theorem AsideStep.cache (step : AsideStep o o') : CacheStep o o' := by
  cases step with
  | call => exact .spares (Spares.refl.note fun _ => id).client
  | stop => exact .spares Spares.refl.client
  | look => exact .spares (Spares.refl.note fun _ => id)
  | tidy => exact .spares ((spares_after ⟨rfl, rfl⟩ rfl).note fun _ => id)
  | clear => exact .clears rfl
  | setCallback => exact .spares (spares_after ⟨rfl, rfl⟩ rfl)
  | elsewhere e => exact .passes e rfl
  | release => exact .spares (spares_after ⟨rfl, rfl⟩ Timeline.now_release)
  | partner => exact .spares ⟨rfl, rfl, rfl, Spares.refl.log⟩

theorem Step.cache (step : Step o o') : CacheStep o o' := by
  cases step with
  | call _ step => exact step.cache
  | stop _ step => exact step.cache
  | shift _ step => exact step.cache
  | aside step => exact step.cache

end Timed

end Office

/-! ### What the log says of the cache -/

theorem foldl_of_idle {α σ : Type} {f : σ → α → σ} {s : σ} {items : List α}
    (idle : ∀ item ∈ items, f s item = s) : items.foldl f s = s := by
  induction items with
  | nil => rfl
  | cons item items ih =>
    rw [List.foldl_cons, idle item List.mem_cons_self]
    exact ih fun other member => idle other (List.mem_cons_of_mem item member)

/-- What there is under a key after an entry of the log. -/
def Happening.leaves (key : String) (there : Option (CachedTags τ)) :
    Happening τ κ → Option (CachedTags τ)
  | .stored _ content existing tags now evicted =>
    if Tagging.cacheKey content existing = key then some ⟨tags, now⟩
    else if key ∈ evicted then none else there
  | .cleared => none
  | _ => there

private theorem Happening.leaves_of_not_ends {key : String} {there : Option (CachedTags τ)}
    {entry : Happening τ κ} (lasts : ¬ entry.Ends key) : entry.leaves key there = there := by
  cases entry with
  | stored =>
    obtain ⟨apart, stays⟩ := not_or.mp lasts
    rw [leaves, if_neg apart, if_neg stays]
  | cleared => exact absurd trivial lasts
  | _ => rfl

/-- What was stored last under a key, and has not been replaced, evicted or cleared since. -/
def standing (key : String) (log : List (Happening τ κ)) : Option (CachedTags τ) :=
  log.foldl (fun there entry => entry.leaves key there) none

variable {log entries : List (Happening τ κ)} {key : String}

private theorem standing_note {entry : Happening τ κ} :
    standing key (log ++ [entry]) = entry.leaves key (standing key log) := by
  rw [standing, List.foldl_append]
  rfl

private theorem standing_append (lasts : ∀ entry ∈ entries, ¬ entry.Ends key) :
    standing key (log ++ entries) = standing key log := by
  rw [standing, List.foldl_append]
  exact foldl_of_idle fun entry member => Happening.leaves_of_not_ends (lasts entry member)

namespace Office

/-- The cache is within its bounds, and holds what the log says. -/
structure Shelved [TimeScale τ] (o : Office τ κ β) : Prop where
  capped : o.tagger.cache.length ≤ max 1 o.tagger.config.cacheCapacity
  distinct : o.tagger.cache.keys.Nodup
  holds : ∀ key, o.tagger.cache.find? key = standing key o.log

variable [TimeScale τ] {o o' : Office τ κ β}

theorem Spares.shelved (spares : o.Spares o') (shelved : o.Shelved) : o'.Shelved where
  capped := by
    rw [spares.cache, spares.config]
    exact shelved.capped
  distinct := spares.cache ▸ shelved.distinct
  holds key := by
    obtain ⟨entries, log, silent⟩ := spares.log
    rw [spares.cache, log, standing_append fun entry member => silent entry member key]
    exact shelved.holds key

/-- What goes to make room is what the log names. -/
theorem mem_evicted {key : String} {before after : List String} :
    key ∈ before.filter (fun key => !after.contains key) ↔ key ∈ before ∧ key ∉ after := by
  rw [List.mem_filter, Bool.not_eq_true', List.contains_eq_mem, decide_eq_false_iff_not]

theorem Shelved.kept {asker : Asker} {content : String} {existing tags : List String}
    (shelved : o.Shelved) : (o.kept asker content existing tags).Shelved where
  capped := TagCache.length_insert_le shelved.capped
  distinct := TagCache.nodup_insert shelved.distinct
  holds key := by
    change TagCache.find? key (TagCache.insert _ _ _ _ _ _) = standing key (o.log ++ [_])
    rw [standing_note, storing, Happening.leaves, ← shelved.holds]
    by_cases same : Tagging.cacheKey content existing = key
    · rw [if_pos same, ← same]
      exact TagCache.find?_put_self _ _ _
    · -- Under any other key, what has gone is what the log names.
      rw [if_neg same]
      refine (TagCache.find?_insert_of_ne shelved.distinct (Ne.symm same)).trans ?_
      by_cases stays : key ∈ (o.after (Tagging.keep content existing tags)).tagger.cache.keys
      · exact (if_pos stays).trans (if_neg fun gone => (mem_evicted.mp gone).2 stays).symm
      · refine (if_neg stays).trans ?_
        split
        · rfl
        · next other =>
          have absent : key ∉ o.tagger.cache.keys :=
            fun before => other (mem_evicted.mpr ⟨before, stays⟩)
          exact (TagCache.find?_eq_none_iff.mpr absent).symm

theorem Shelved.wiped : o.wiped.Shelved where
  capped := by
    change (([] : TagCache τ).length : Int) ≤ _
    exact zero_le_one.trans (le_max_left _ _)
  distinct := List.nodup_nil
  holds key := by
    change none = standing key (o.log ++ [.cleared])
    rw [standing_note, Happening.leaves]

theorem CacheStep.shelved (step : CacheStep o o') (shelved : o.Shelved) : o'.Shelved := by
  cases step with
  | spares spares => exact spares.shelved shelved
  | passes e meanwhile => exact meanwhile ▸ ⟨shelved.capped, shelved.distinct, shelved.holds⟩
  | keeps asker content existing tags spares => exact spares.shelved shelved.kept
  | clears now => exact now ▸ Shelved.wiped

variable {config : TaggingConfig τ} {world : World τ} {partner : β} {crew : Nat}

theorem shelved_start : (start config world partner crew : Office τ κ β).Shelved where
  capped := zero_le_one.trans (le_max_left _ _)
  distinct := List.nodup_nil
  holds _ := rfl

theorem Leads.shelved (leads : Leads o o') (shelved : o.Shelved) : o'.Shelved := by
  induction leads with
  | refl => exact shelved
  | tail _ step ih => exact step.cache.shelved ih

/-- The cache never has more entries than it may, or than one if it may have fewer; and what was
stored is there under its key until it is replaced, evicted or cleared. -/
theorem cacheCapped (leads : Leads (start config world partner crew) o) :
    o.tagger.cache.length ≤ max 1 config.cacheCapacity ∧
      ∀ earlier asker content existing tags now evicted later,
        o.log = earlier ++ .stored asker content existing tags now evicted :: later →
          (∀ entry ∈ later, ¬ entry.Ends (Tagging.cacheKey content existing)) →
            o.tagger.cache.find? (Tagging.cacheKey content existing) = some ⟨tags, now⟩ := by
  have shelved := leads.shelved shelved_start
  constructor
  · have config : config = o.tagger.config := leads.steady.config.symm
    exact config ▸ shelved.capped
  · intro earlier asker content existing tags now evicted later log lasts
    rw [shelved.holds, log, ← List.singleton_append, ← List.append_assoc, standing_append lasts,
      standing_note]
    exact if_pos rfl

/-- Two clients find nothing, and each keeps what it gets then where nothing may be kept. -/
theorem cacheCapped_of_two : ∃ o : Office Int Unit Unit,
    Leads (start { TaggingConfig.usual with cacheCapacity := 0 }
      (World.start (Client.ofReplies [])) () 0) o ∧
      (o.tagger.cache.length : Int) ≤ max 1 0 ∧
        o.tagger.cache.find? (Tagging.cacheKey "b" []) = some ⟨["y"], 0⟩ := by
  let d : Demand := ⟨1, "a", [], .now 0⟩
  let d' : Demand := ⟨1, "b", [], .now 0⟩
  have run : ∃ (o : Office Int Unit Unit) (earlier : List (Happening Int Unit)) (evicted : List String),
      Leads (start { TaggingConfig.usual with cacheCapacity := 0 }
        (World.start (Client.ofReplies [])) () 0) o ∧
        o.log = earlier ++ [.stored (.client 1) "b" [] ["y"] 0 evicted] :=
    ⟨_, _, _, .tail (.tail (.tail (.tail (.tail (.tail (.tail (.tail (.tail (.tail (.tail (.tail
      (.tail (.tail (.tail (.tail (.tail (.tail .refl
      (.aside (.call (c := 0) (d := d) rfl)))
      (.call clients_client (.enter rfl)))
      (.call clients_client .read))
      (.call clients_client (.grant rfl)))
      (.call clients_client (.miss rfl)))
      (.aside (.call (c := 1) (d := d') rfl)))
      (.call clients_client (.enter rfl)))
      (.call clients_client .read))
      (.call clients_client (.grant rfl)))
      (.call clients_client (.miss rfl)))
      (.call (c := 0) rfl (.openInner rfl rfl)))
      (.call clients_client .ask))
      (.call clients_client (@CallStep.answer Int Unit Unit _ 0 d _ { tags := ["x"] })))
      (.call clients_client .keep))
      (.call (c := 1) rfl (.openInner rfl rfl)))
      (.call clients_client .ask))
      (.call clients_client (@CallStep.answer Int Unit Unit _ 1 d' _ { tags := ["y"] })))
      (.call clients_client .keep), rfl⟩
  obtain ⟨o, earlier, evicted, leads, log⟩ := run
  obtain ⟨capped, present⟩ := cacheCapped leads
  exact ⟨o, leads, capped, present _ _ _ _ _ _ _ [] log fun _ none => (List.not_mem_nil none).elim⟩

end Office

end MemoAssist

import MemoAssist.Proofs.Clock.Exact
import MemoAssist.Proofs.Tagging.Chronicle
import MemoAssist.Proofs.Tagging.Keys

/-! What the cache serves. Everything in it can be traced back to the answer of the backend that was
stored last under its key, and so can everything that is served from it. -/
namespace MemoAssist

variable {τ κ β : Type} {c w : Nat} {d : Demand}

/-- A client who is about to tell what it got has asked for it. -/
theorem Course.asked {log sofar : List (Happening τ κ)}
    {response : SuggestTagsResponse} (trail : Trail log (.client c) (.called c d :: sofar))
    (course : Course c d sofar (.telling response)) : AskedSinceCall log c := by
  obtain ⟨first, scope, request, answered, stored, rfl, own⟩ := course
  obtain ⟨before, after, rfl, since⟩ := trail.drop.drop.split
  refine ⟨before, scope, request, after, rfl, ?_⟩
  intro d' member
  have listed : .called c d' ∈ after.filter (Happening.isOf (.client c)) :=
    List.mem_filter.mpr ⟨member, by simp [Happening.isOf]⟩
  rw [since] at listed
  rcases List.mem_pair.mp listed with same | same
  · exact (own d').1 same.symm
  · exact (own d').2 same.symm

/-- A client who is about to keep what it got has obtained it. -/
theorem Course.obtained {log sofar : List (Happening τ κ)}
    {response : SuggestTagsResponse} (trail : Trail log (.client c) (.called c d :: sofar))
    (course : Course c d sofar (.keeping response)) :
    Obtained log (.client c) d.content d.existing response.tags := by
  obtain ⟨first, scope, request, rfl, content, existing⟩ := course
  exact ⟨scope, request, response, trail.drop.drop, content, existing, rfl⟩

namespace Office

variable [TimeScale τ] {o o' : Office τ κ β}

/-- The log accounts for all that was handed out, and for all that is in the cache. -/
structure Traced (o : Office τ κ β) : Prop where
  grounded : ∀ earlier entry, earlier ++ [entry] <+: o.log →
    Grounded o.tagger.config.cacheSpan earlier entry
  distinct : o.tagger.cache.keys.Nodup
  held : ∀ key entry, (key, entry) ∈ o.tagger.cache → ∃ content existing,
    Tagging.cacheKey content existing = key ∧
      Held o.log content existing entry.tags entry.created

theorem Traced.client {errand : Errand τ} (traced : o.Traced) : (o.client c errand).Traced :=
  ⟨traced.grounded, traced.distinct, traced.held⟩

theorem Traced.worker {shift : Shift κ} (traced : o.Traced) : (o.worker w shift).Traced :=
  ⟨traced.grounded, traced.distinct, traced.held⟩

theorem Traced.after {α : Type} {work : Room.Work τ κ β α} (traced : o.Traced)
    (config : (work o.room).2.tagger.config = o.tagger.config)
    (cache : (work o.room).2.tagger.cache = o.tagger.cache) : (o.after work).Traced where
  grounded earlier entry past := by
    have due := traced.grounded earlier entry past
    rwa [← config] at due
  distinct := by
    have distinct := traced.distinct
    rwa [← cache] at distinct
  held key entry member := traced.held key entry (cache ▸ member)

private theorem Traced.grounded_note {entry : Happening τ κ} (traced : o.Traced)
    (due : Grounded o.tagger.config.cacheSpan o.log entry) :
    ∀ earlier other, earlier ++ [other] <+: o.log ++ [entry] →
      Grounded o.tagger.config.cacheSpan earlier other := by
  intro earlier other past
  rcases List.prefix_concat_iff.mp past with last | before
  · obtain ⟨rfl, same⟩ := List.append_inj' last rfl
    exact List.singleton_inj.mp same ▸ due
  · exact traced.grounded earlier other before

theorem Traced.note {entry : Happening τ κ} (traced : o.Traced)
    (due : Grounded o.tagger.config.cacheSpan o.log entry) (lasts : ∀ key, ¬ entry.Ends key) :
    (o.note entry).Traced where
  grounded := traced.grounded_note due
  distinct := traced.distinct
  held key kept member := by
    obtain ⟨content, existing, rfl, held⟩ := traced.held key kept member
    exact ⟨content, existing, rfl, held.note (lasts _)⟩

theorem Traced.reply {outcome : Except Fault Answer} (traced : o.Traced)
    (due : Grounded o.tagger.config.cacheSpan o.log (.returned c d outcome)) :
    (o.reply c d outcome).Traced := traced.client.note due fun _ => id

/-- Results that were obtained are kept, and those that must make room are named. -/
theorem Traced.keep {asker : Asker} {content : String} {existing tags : List String}
    (traced : o.Traced) (obtained : Obtained o.log asker content existing tags) :
    ((o.after (Tagging.keep content existing tags)).note
      (o.storing asker content existing tags)).Traced where
  grounded := traced.grounded_note trivial
  distinct := TagCache.nodup_insert traced.distinct
  held key entry member := by
    rcases TagCache.mem_insert traced.distinct member with ⟨rfl, rfl⟩ | ⟨apart, before⟩
    · exact ⟨content, existing, rfl, o.log, asker, _, [], rfl, obtained,
        fun _ none => (List.not_mem_nil none).elim⟩
    · obtain ⟨content', existing', rfl, held⟩ := traced.held key entry before
      refine ⟨content', existing', rfl, held.note ?_⟩
      rintro (replaced | evicted)
      · exact apart replaced.symm
      · have listed := List.mem_map_of_mem (f := Prod.fst) member
        simp only [List.mem_filter, Bool.not_eq_true', List.contains_eq_mem,
          decide_eq_false_iff_not] at evicted
        exact evicted.2 listed

theorem Traced.clear (traced : o.Traced) :
    ((o.after Tagging.clearCache).note .cleared).Traced where
  grounded := traced.grounded_note trivial
  distinct := List.nodup_nil
  held _ _ member := (List.not_mem_nil member).elim

theorem Traced.job {memo : Int} (traced : o.Traced) : (o.after (d.job memo)).Traced := by
  obtain ⟨entropy, drawn⟩ := Tagging.newJob_room o.room d.user memo d.content d.existing
  have same : (d.job memo o.room).2.tagger = o.tagger := by
    rw [Demand.job, drawn]
    rfl
  exact traced.after (congrArg Tagger.config same) (congrArg Tagger.cache same)

theorem Traced.grant {now : τ} {user : Int} (traced : o.Traced) :
    (o.after (Tagging.grantAt now user)).Traced := by
  obtain ⟨quota, granted⟩ := Tagging.grantAt_room o.room now user
  exact traced.after (by rw [granted]; rfl) (by rw [granted]; rfl)

/-- What is recalled is held. -/
theorem Traced.recalled {content : String} {existing tags : List String} (traced : o.Traced)
    (found : (Tagging.cached content existing o.room).1 = .ok (some tags)) :
    Grounded o.tagger.config.cacheSpan o.log (.recalled c content existing o.now (some tags)) := by
  obtain ⟨entry, member, rfl, fresh⟩ := TagCache.lookUp_some (Except.ok.inj found)
  obtain ⟨content', existing', key, held⟩ := traced.held _ entry member
  exact ⟨content', existing', entry.created, key, held, fresh⟩

/-! ### Every step can be accounted for -/

theorem CallStep.traced {stage : CallStage τ} {sofar : List (Happening τ κ)}
    (step : CallStep c d stage o o') (trail : Trail o.log (.client c) (.called c d :: sofar))
    (course : Course c d sofar stage) (traced : o.Traced) : o'.Traced := by
  cases step with
  | enter | read | proceed | tooLate | full => exact traced.client
  | lock => exact Traced.client ⟨traced.grounded, traced.distinct, traced.held⟩
  | barred => exact traced.reply trivial
  | grant => exact traced.grant.client
  | overQuota => exact traced.grant.reply trivial
  | hit found => exact (traced.note (traced.recalled found) fun _ => id).client
  | miss | ask | answer => exact Traced.client (traced.note trivial fun _ => id)
  | serve =>
    obtain ⟨now, rfl⟩ := course
    exact traced.reply (.inr ⟨now, trail⟩)
  | serveJob _ named =>
    obtain ⟨now, rfl⟩ := course
    refine Traced.reply (traced.job.note trivial fun _ => id) fun _ => ?_
    obtain ⟨id, created, rfl⟩ := Tagging.newJob_ok named
    exact ⟨_, rfl, now, trail.other rfl⟩
  | unserved | unnamed => exact traced.job.reply trivial
  | name => exact Traced.client (traced.job.note trivial fun _ => id)
  | record | withdraw | openInner => exact (traced.after rfl rfl).client
  | accept queued =>
    refine Traced.client (Traced.note (traced.after ?_ ?_) trivial fun _ => id)
    all_goals
      rw [Tagging.offer_room _ (Tagging.offer_ok.mp queued)]
      rfl
  | @leave _ outcome =>
    refine Traced.reply ⟨traced.grounded, traced.distinct, traced.held⟩ ?_
    cases outcome with
    | ok job => exact fun finished => nomatch finished.symm.trans course
    | error => trivial
  | fail => exact Traced.reply (traced.note trivial fun _ => id) trivial
  | keep => exact (traced.keep (Course.obtained trail course)).client
  | report => exact (traced.after rfl rfl).reply (.inl (Course.asked trail course))

theorem StopStep.traced {stage : StopStage} (step : StopStep c stage o o') (traced : o.Traced) :
    o'.Traced := by
  cases step with
  | lock | goOn | goBack | signal =>
    exact Traced.client ⟨traced.grounded, traced.distinct, traced.held⟩
  | late | join | joined | drained => exact traced.client
  | close => exact (traced.after rfl rfl).client
  | cancel | fail | report =>
    exact Traced.client (Traced.note (traced.after rfl rfl) trivial fun _ => id)
  | take found =>
    obtain ⟨queue, _, taken⟩ := Tagging.takeWaiting_some found
    refine (traced.after ?_ ?_).client
    all_goals
      rw [taken]
      rfl

theorem ShiftStep.traced {shift : Shift κ} (step : ShiftStep w shift o o')
    (effort : Effort o.log w shift) (traced : o.Traced) : o'.Traced := by
  cases step with
  | look | go | rest | unknown | keepStill => exact traced.worker
  | fetch found =>
    obtain ⟨queue, _, taken⟩ := Tagging.takeWaiting_some found
    refine (traced.after ?_ ?_).worker
    all_goals
      rw [taken]
      rfl
  | start found =>
    obtain ⟨old, _, _, _, begun⟩ := Tagging.beginJob_some found
    refine Traced.worker (Traced.note (traced.after ?_ ?_) trivial fun _ => id)
    all_goals
      rw [begun]
      rfl
  | openInner => exact (traced.after rfl rfl).worker
  | ask | answer | fail | tell => exact Traced.worker (traced.note trivial fun _ => id)
  | keep => exact (traced.keep effort).worker
  | publish => exact Traced.worker (Traced.note (traced.after rfl rfl) trivial fun _ => id)

theorem AsideStep.traced (step : AsideStep o o') (traced : o.Traced) : o'.Traced := by
  cases step with
  | call => exact Traced.client (traced.note trivial fun _ => id)
  | stop => exact traced.client
  | look => exact traced.note trivial fun _ => id
  | tidy => exact (traced.after rfl rfl).note trivial fun _ => id
  | clear => exact traced.clear
  | setCallback | elsewhere | release => exact traced.after rfl rfl
  | partner => exact ⟨traced.grounded, traced.distinct, traced.held⟩

theorem Step.traced (step : Step o o') (coursing : o.Coursing) (traced : o.Traced) :
    o'.Traced := by
  cases step with
  | @call c d stage here step =>
    obtain ⟨sofar, trail, course⟩ := coursing.client c d stage here
    exact step.traced trail course traced
  | stop _ step => exact step.traced traced
  | @shift w _ here step => exact step.traced (here ▸ coursing.worker w) traced
  | aside step => exact step.traced traced

theorem Leads.traced (leads : Leads o o') (coursing : o.Coursing) (traced : o.Traced) :
    o'.Traced := by
  induction leads with
  | refl => exact traced
  | tail leads step ih => exact step.traced (Leads.coursing leads coursing) ih

variable {config : TaggingConfig τ} {world : World τ} {partner : β} {crew : Nat}

theorem coursing_start : (start config world partner crew : Office τ κ β).Coursing where
  client _ _ _ := nofun
  worker w := by
    simp only [start]
    split <;> trivial

private theorem traced_start : (start config world partner crew : Office τ κ β).Traced where
  grounded _ _ past := by
    have empty := List.prefix_nil.mp past
    simp at empty
  distinct := List.nodup_nil
  held _ _ member := (List.not_mem_nil member).elim

end Office

/-! ### What is served -/

/-- What an entry has a mark of. -/
def Happening.marked? : Happening τ κ → Option (String × List String)
  | .recalled _ content existing _ _ | .stored _ content existing _ _ _ => some (content, existing)
  | _ => none

/-- The mark of a content and tags was taken. -/
def Marked (log : List (Happening τ κ)) (content : String) (existing : List String) : Prop :=
  (content, existing) ∈ log.filterMap Happening.marked?

/-- No two byte strings whose marks were taken have the same mark. -/
def Unmistakable (log : List (Happening τ κ)) : Prop :=
  ∀ content existing content' existing', Marked log content existing →
    Marked log content' existing' →
      Tagging.cacheKey content existing = Tagging.cacheKey content' existing' →
        Tagging.cacheText content existing = Tagging.cacheText content' existing'

/-- All that a client did since its demand was to find these tags in the cache. By then they were
what had been obtained and stored last for this content and these tags, and they were not replaced,
evicted or cleared since, nor out of date. -/
def FromCache [TimeScale τ] [ExactScale τ] (span : τ) (log : List (Happening τ κ)) (c : Nat)
    (d : Demand) (tags : List String) : Prop :=
  ∃ before now after moment,
    log = before ++ .recalled c d.content d.existing now (some tags) :: after ∧
      Trail before (.client c) [.called c d] ∧
        (∀ entry ∈ after, entry.isOf (.client c) = false) ∧
          Held before d.content d.existing tags moment ∧
            ExactScale.value now - ExactScale.value moment ≤ ExactScale.value span

theorem marked_of_mem {log : List (Happening τ κ)} {entry : Happening τ κ} {content : String}
    {existing : List String} (member : entry ∈ log)
    (marks : entry.marked? = some (content, existing)) : Marked log content existing :=
  List.mem_filterMap.mpr ⟨entry, member, marks⟩

namespace Office

variable [TimeScale τ] {o : Office τ κ β} {config : TaggingConfig τ} {world : World τ}
  {partner : β} {crew : Nat}

/-- What was found in the cache came from there, where marks can be told apart. -/
theorem Traced.found [ExactScale τ] {earlier : List (Happening τ κ)} {tags : List String}
    (traced : o.Traced) (marks : Unmistakable o.log)
    (fitting : ∀ content existing, Marked o.log content existing →
      Tagging.Fitting content existing)
    (past : earlier <+: o.log) (found : Found earlier c d tags) :
    FromCache o.tagger.config.cacheSpan earlier c d tags := by
  obtain ⟨now, trail⟩ := found
  obtain ⟨before, after, rfl, called, others⟩ :=
    @Trail.last _ _ _ _ _ [.called c d] trail
  have shown : before ++ [.recalled c d.content d.existing now (some tags)] <+: o.log :=
    .trans ⟨after, by simp⟩ past
  obtain ⟨content, existing, moment, key, held, fresh⟩ := traced.grounded _ _ shown
  have asked : Marked o.log d.content d.existing :=
    marked_of_mem (shown.subset (List.mem_append_right _ List.mem_cons_self)) rfl
  have stored : Marked o.log content existing := by
    obtain ⟨first, asker, evicted, last, logged, _⟩ := held
    have kept : .stored asker content existing tags moment evicted ∈ before := by simp [logged]
    exact marked_of_mem (shown.subset (List.mem_append_left _ kept)) rfl
  obtain ⟨rfl, rfl⟩ := Tagging.cacheText_inj (fitting _ _ stored) (fitting _ _ asked)
    (marks _ _ _ _ stored asked key)
  rw [ExactScale.lt_iff, ExactScale.value_sub, not_lt] at fresh
  exact ⟨before, now, after, moment, rfl, called, others, held, fresh⟩

/-- Whoever gets tags without asking the backend, or a job that is finished at once, gets what was
stored last for the same content and the same tags, in time. -/
theorem cacheSound [ExactScale τ] (leads : Leads (start config world partner crew) o)
    (marks : Unmistakable o.log)
    (fitting : ∀ content existing, Marked o.log content existing →
      Tagging.Fitting content existing)
    {earlier later : List (Happening τ κ)} {outcome : Except Fault Answer}
    (returned : o.log = earlier ++ .returned c d outcome :: later) :
    (∀ response, outcome = .ok (.tags response) → ¬ AskedSinceCall earlier c →
      FromCache config.cacheSpan earlier c d response.tags) ∧
    ∀ job, outcome = .ok (.job job) → job.status = .completed →
      ∃ response, job.result = some response ∧
        FromCache config.cacheSpan earlier c d response.tags := by
  have traced := Leads.traced leads coursing_start traced_start
  have span : config = o.tagger.config := leads.steady.config.symm
  have past : earlier <+: o.log := ⟨_, returned.symm⟩
  have due := traced.grounded earlier (.returned c d outcome) ⟨later, by simp [returned]⟩
  constructor
  · rintro response rfl unasked
    rcases due with asked | found
    · exact absurd asked unasked
    · exact span ▸ traced.found marks fitting past found
  · rintro job rfl completed
    obtain ⟨response, result, found⟩ := due completed
    exact ⟨response, result, span ▸ traced.found marks fitting past found⟩

/-- Tags are asked for and kept, and found in the cache for a job on the same memo. -/
theorem cacheSound_of_hit : ∃ (o : Office Int Unit Unit) (earlier : List (Happening Int Unit))
    (d : Demand) (job : TagJob), o.log = earlier ++ [.returned 0 d (.ok (.job job))] ∧
      ∃ response, job.result = some response ∧
        FromCache (TaggingConfig.usual : TaggingConfig Int).cacheSpan earlier 0 d response.tags := by
  let d : Demand := ⟨1, "a memo", [], .now 0⟩
  let d' : Demand := ⟨1, "a memo", [], .later 1⟩
  have run : ∃ (o : Office Int Unit Unit) (earlier : List (Happening Int Unit)) (job : TagJob),
      Leads (start .usual (World.start (Client.ofReplies [])) () 0) o ∧
        o.log = earlier ++ [.returned 0 d' (.ok (.job job))] ∧ job.status = .completed ∧
          o.log.filterMap Happening.marked? = [("a memo", []), ("a memo", []), ("a memo", [])] :=
    ⟨_, _, _, .tail (.tail (.tail (.tail (.tail (.tail (.tail (.tail (.tail (.tail (.tail (.tail
      (.tail (.tail (.tail (.tail .refl
      (.aside (.call (c := 0) (d := d) rfl)))
      (.call clients_client (.enter rfl)))
      (.call clients_client .read))
      (.call clients_client (.grant rfl)))
      (.call clients_client (.miss rfl)))
      (.call clients_client (.openInner rfl rfl)))
      (.call clients_client .ask))
      (.call clients_client (@CallStep.answer Int Unit Unit _ 0 d _ { tags := ["a"] })))
      (.call clients_client .keep))
      (.call clients_client .report))
      (.aside (.call (c := 0) (d := d') rfl)))
      (.call clients_client (.enter rfl)))
      (.call clients_client .read))
      (.call clients_client (.grant rfl)))
      (.call clients_client (.hit (congrArg Except.ok (TagCache.lookUp_insert (by decide))))))
      (.call clients_client (.serveJob rfl rfl)), rfl, rfl, rfl⟩
  obtain ⟨o, earlier, job, leads, log, completed, marked⟩ := run
  have only (content : String) (existing : List String) (marks : Marked o.log content existing) :
      content = "a memo" ∧ existing = [] := by
    simpa [Marked, marked] using marks
  refine ⟨o, earlier, d', job, log, (cacheSound leads ?_ ?_ log).2 job rfl completed⟩
  · intro content existing content' existing' marks marks' _
    obtain ⟨rfl, rfl⟩ := only content existing marks
    obtain ⟨rfl, rfl⟩ := only content' existing' marks'
    rfl
  · intro content existing marks part member
    obtain ⟨rfl, rfl⟩ := only content existing marks
    obtain rfl := List.mem_singleton.mp member
    decide

end Office

end MemoAssist

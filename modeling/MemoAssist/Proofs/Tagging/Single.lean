import MemoAssist.Proofs.Tagging.Account

/-! One id among all. What a ledger says about one id is a ledger itself, and every step is a step
there too or nothing at all. So what holds as long as no id is drawn twice holds of every id that is
not, whatever becomes of others. -/
namespace MemoAssist

namespace JobBoard

variable {b : JobBoard} {job : TagJob} {id other : String}

/-- What the board has under an id. -/
def about (id : String) (b : JobBoard) : JobBoard where
  jobs := b.jobs.filter fun job => job.id = id
  queue := b.queue.filter fun waiting => waiting = id

private theorem filter_put (jobs : List TagJob) :
    (put job jobs).filter (fun other => other.id = id) =
      if job.id = id then put job (jobs.filter fun other => other.id = id)
      else jobs.filter fun other => other.id = id := by
  induction jobs with
  | nil => by_cases same : job.id = id <;> simp [put, same]
  | cons head rest ih =>
    by_cases place : head.id = job.id
    · by_cases same : job.id = id <;> simp [put, place, same]
    · by_cases here : head.id = id
      · have apart : job.id ≠ id := fun same => place (here.trans same.symm)
        simp [put, here, apart, Ne.symm apart, ih]
      · by_cases same : job.id = id <;> simp [put, place, here, same, ih]

private theorem about_record : (b.record job).about id =
    if job.id = id then (b.about id).record job else b.about id := by
  simp only [about, record, filter_put]
  split <;> rfl

theorem about_change {f : TagJob → TagJob} (same : ∀ job, job.id = other → (f job).id = other) :
    (b.change other f).about id = if other = id then (b.about id).change id f else b.about id := by
  have kept (job : TagJob) : (if job.id = other then f job else job).id = job.id := by
    split
    · rename_i here
      exact (same job here).trans here.symm
    · rfl
  by_cases here : other = id
  · subst here
    simp only [about, change, List.filter_map, Function.comp_def, kept, if_true]
  · have alone : ∀ job ∈ b.jobs.filter fun job => job.id = id,
        (if job.id = other then f job else job) = job := by
      intro job member
      have named : job.id = id := by simpa using (List.mem_filter.mp member).2
      exact if_neg fun turned => here (turned.symm.trans named)
    simp only [about, change, List.filter_map, Function.comp_def, kept, if_neg here,
      List.map_congr_left alone, List.map_id']

private theorem about_withdraw : (b.withdraw other).about id =
    if other = id then (b.about id).withdraw id else b.about id := by
  by_cases same : other = id
  · subst same
    simp only [about, withdraw, List.filter_filter, Bool.and_comm, if_true]
  · simp only [about, withdraw, List.filter_filter, if_neg same]
    congr 1
    apply List.filter_congr
    intro job _
    by_cases here : job.id = id
    · simp [here, Ne.symm same]
    · simp [here]

private theorem about_enqueue : (b.enqueue other).about id =
    if other = id then (b.about id).enqueue id else b.about id := by
  by_cases same : other = id <;> simp [about, enqueue, same]

private theorem about_expire {cutoff : Instant} :
    (b.expire cutoff).2.about id = ((b.about id).expire cutoff).2 := by
  simp only [about, expire, List.filter_filter, Bool.and_comm]

theorem find?_about : (b.about id).find? id = b.find? id := by
  simp [about, find?, List.find?_filter]

end JobBoard

namespace Ledger

variable {l l' : Ledger} {x : Holder} {id other : String} {limit : Int}

/-- What a ledger says about one id. -/
def about (id : String) (l : Ledger) : Ledger where
  board := l.board.about id
  hold x := (l.hold x).filter fun h => h.id = id
  drawn := l.drawn.filter fun drawn => drawn = id
  accepted := l.accepted.filter fun accepted => accepted = id
  begun := l.begun.filter fun begun => begun = id
  asked := l.asked.filter fun asked => asked = id
  published := l.published.filter fun published => published.1 = id
  expired := l.expired.filter fun expired => expired = id

private theorem filter_update (x : Holder) (id : String) (hold : Holder → Option Hold) (h : Hold)
    (named : h.id = id) :
    (fun y => (Function.update hold x (some h) y).filter fun h => h.id = id) =
      Function.update (fun y => (hold y).filter fun h => h.id = id) x (some h) := by
  funext y
  by_cases same : y = x
  · subst same
    simp [named]
  · simp [same]

private theorem filter_update_none (x : Holder) (id : String) (hold : Holder → Option Hold) :
    (fun y => (Function.update hold x none y).filter fun h => h.id = id) =
      Function.update (fun y => (hold y).filter fun h => h.id = id) x none := by
  funext y
  by_cases same : y = x <;> simp [same]

/-- A hand that has another id in it, before and after, is empty for this one. -/
private theorem filter_update_other {old new : Option Hold} {hold : Holder → Option Hold}
    (holds : hold x = old) (before : ∀ h, old = some h → h.id ≠ id)
    (after : ∀ h, new = some h → h.id ≠ id) :
    (fun y => (Function.update hold x new y).filter fun h => h.id = id) =
      fun y => (hold y).filter fun h => h.id = id := by
  have none {h : Option Hold} (others : ∀ k, h = some k → k.id ≠ id) :
      h.filter (fun h => h.id = id) = none := by
    cases h with
    | none => rfl
    | some k => simp [others k rfl]
  funext y
  by_cases same : y = x
  · subst same
    rw [Function.update_self, none after, holds, none before]
  · rw [Function.update_of_ne same]

theorem about_hold {h : Hold} (holds : l.hold x = some h) (named : h.id = id) :
    (l.about id).hold x = some h := by
  simp [about, holds, named]

/-- What is done with an id is done with it alone. -/
theorem Handling.about (handling : Handling limit x id l l') :
    Handling 0 x id (l.about id) (l'.about id) := by
  have gone := filter_update_none x id l.hold
  have put := filter_update x id l.hold
  cases handling with
  | @name _ _ job empty blank =>
    have same := @Handling.name 0 (l.about job.id) x job (by simp [Ledger.about, empty]) blank
    simpa [Ledger.about, Ledger.put, put (.fresh job) rfl] using same
  | @drop _ _ job holds =>
    have same := @Handling.drop 0 (l.about job.id) x job (about_hold holds rfl)
    simpa [Ledger.about, Ledger.put, gone] using same
  | @record _ _ job holds =>
    have same := @Handling.record 0 (l.about job.id) x job (about_hold holds rfl)
    simpa [Ledger.about, Ledger.put, put (.offered job) rfl, JobBoard.about_record] using same
  | @accept _ _ job holds room =>
    have same := @Handling.accept 0 (l.about job.id) x job (about_hold holds rfl) rfl
    simpa [Ledger.about, Ledger.put, gone, JobBoard.about_enqueue] using same
  | @withdraw _ _ job holds =>
    have same := @Handling.withdraw 0 (l.about job.id) x job (about_hold holds rfl)
    simpa [Ledger.about, Ledger.put, gone, JobBoard.about_withdraw] using same
  | @take _ _ _ queue empty next =>
    have same := @Handling.take 0 (l.about id) x id (queue.filter fun waiting => waiting = id)
      (by simp [Ledger.about, empty]) (by simp [Ledger.about, JobBoard.about, next])
    simpa [Ledger.about, Ledger.put, put (.taken id) rfl, JobBoard.about] using same
  | @begin _ w _ job holds found =>
    have named : job.id = id := JobBoard.find?_id found
    have same := @Handling.begin 0 (l.about id) w id job (about_hold holds rfl)
      (JobBoard.find?_about.trans found)
    simpa [Ledger.about, Ledger.put, put (.begun job.atWork) named, named, JobBoard.about_change]
      using same
  | @lose _ _ _ holds unknown =>
    have same := @Handling.lose 0 (l.about id) x id (about_hold holds rfl)
      (JobBoard.find?_about.trans unknown)
    simpa [Ledger.about, Ledger.put, gone] using same
  | @ask _ _ job holds =>
    have same := @Handling.ask 0 (l.about job.id) x job (about_hold holds rfl)
    simpa [Ledger.about, Ledger.put, put (.asked job) rfl] using same
  | @finish _ _ job outcome moment holds =>
    have same := @Handling.finish 0 (l.about job.id) x job outcome moment (about_hold holds rfl)
    simpa [Ledger.about, Ledger.put, gone, JobBoard.about_change] using same
  | @abandon _ c _ moment holds =>
    have same := @Handling.abandon 0 (l.about id) c id moment (about_hold holds rfl)
    simpa [Ledger.about, Ledger.put, gone, JobBoard.about_change, abandon_id] using same

/-- What is done with another id changes nothing. -/
theorem Handling.about_other (handling : Handling limit x other l l') (apart : other ≠ id) :
    l'.about id = l.about id := by
  have free : ∀ h, (none : Option Hold) = some h → h.id ≠ id := fun _ held => nomatch held
  have away {k : Hold} (named : k.id = other) : ∀ h, some k = some h → h.id ≠ id := by
    rintro h ⟨⟩
    intro same
    exact apart (named.symm.trans same)
  cases handling with
  | @name _ _ job empty =>
    simp [Ledger.about, put, apart, filter_update_other empty free (away (k := .fresh job) rfl)]
  | drop holds => simp [Ledger.about, put, filter_update_other holds (away rfl) free]
  | @record _ _ job holds =>
    simp [Ledger.about, put, apart, JobBoard.about_record,
      filter_update_other holds (away rfl) (away (k := .offered job) rfl)]
  | accept holds =>
    simp [Ledger.about, put, apart, JobBoard.about_enqueue, filter_update_other holds (away rfl) free]
  | withdraw holds =>
    simp [Ledger.about, put, apart, JobBoard.about_withdraw, filter_update_other holds (away rfl) free]
  | take empty next =>
    simp [Ledger.about, put, apart, JobBoard.about, next,
      filter_update_other empty free (away (k := .taken other) rfl)]
  | @begin _ w _ job holds found =>
    have named : job.id = other := JobBoard.find?_id found
    simp [Ledger.about, put, apart, named, JobBoard.about_change,
      filter_update_other holds (away rfl) (away (k := .begun job.atWork) named)]
  | lose holds => simp [Ledger.about, put, filter_update_other holds (away rfl) free]
  | @ask _ _ job holds =>
    simp [Ledger.about, put, apart,
      filter_update_other holds (away rfl) (away (k := .asked job) rfl)]
  | finish holds =>
    simp [Ledger.about, put, apart, JobBoard.about_change, filter_update_other holds (away rfl) free]
  | abandon holds =>
    simp [Ledger.about, put, apart, abandon_id, JobBoard.about_change,
      filter_update_other holds (away rfl) free]

theorem Step.about (step : Step limit l l') : Step 0 (l.about id) (l'.about id) := by
  cases step with
  | still => exact .still
  | draw other =>
    by_cases same : other = id
    · simpa [Ledger.about, same] using @Step.draw 0 (l.about id) id
    · simpa [Ledger.about, same] using @Step.still 0 (l.about id)
  | @handle _ x other handling =>
    by_cases same : other = id
    · exact .handle (same ▸ handling).about
    · exact handling.about_other same ▸ .still
  | @expire cutoff =>
    have gone : ((l.board.jobs.filter (JobBoard.isExpired cutoff)).map TagJob.id).filter
        (fun expired => expired = id) =
          ((l.board.about id).jobs.filter (JobBoard.isExpired cutoff)).map TagJob.id := by
      simp [JobBoard.about, List.filter_map, List.filter_filter, Function.comp_def, Bool.and_comm]
    simpa [Ledger.about, JobBoard.about_expire, gone] using @Step.expire 0 (l.about id) cutoff

/-! ### Runs -/

/-- As long as no id is drawn twice, no job is lost. -/
theorem Run.account (run : Run limit blank l) (distinct : l.drawn.Nodup) : l.Account := by
  induction run with
  | refl => exact blank_account
  | tail run step ih =>
    have before := step.distinct_before distinct
    exact step.account (Run.sound run blank_sound before) distinct (ih before)

theorem Run.tended (run : Run limit blank l) : l.Tended := by
  induction run with
  | refl => exact blank_tended
  | tail _ step ih => exact step.tended ih

theorem Run.about (run : Run limit blank l) : Run 0 blank (l.about id) := by
  induction run with
  | refl => exact .refl
  | tail _ step ih => exact ih.tail step.about

theorem distinct_about (once : l.drawn.count id ≤ 1) : (l.about id).drawn.Nodup := by
  change (l.drawn.filter fun drawn => drawn = id).Nodup
  rw [List.filter_eq]
  exact List.nodup_replicate.mpr once

/-- An id that was drawn once at most is accounted for, whatever becomes of others. -/
theorem Run.single (run : Run limit blank l) (once : l.drawn.count id ≤ 1) :
    (l.about id).Sound 0 ∧ (l.about id).Account :=
  ⟨Run.sound (Run.about run) blank_sound (distinct_about once),
    Run.account (Run.about run) (distinct_about once)⟩

private theorem ended_about {outcome : Except Fault SuggestTagsResponse}
    (ended : (l.about id).Ended id outcome) : l.Ended id outcome := by
  obtain ⟨job, found, bears⟩ := ended
  exact ⟨job, JobBoard.find?_about.symm.trans found, bears⟩

private theorem waits_about (waits : (l.about id).Waits id) : l.Waits id := by
  rcases waits with queued | ⟨x, holds⟩
  · exact .inl (List.mem_of_mem_filter queued)
  · exact .inr ⟨x, (Option.filter_eq_some_iff.mp holds).1⟩

theorem single_accepted (account : (l.about id).Account) (member : id ∈ l.accepted) :
    id ∈ l.begun ∨ l.Waits id ∨ l.Ended id (.error JobBoard.stopped) ∨ id ∈ l.expired := by
  have accepted : id ∈ (l.about id).accepted := List.mem_filter.mpr ⟨member, by simp⟩
  rcases account.accepted id accepted with begun | waits | ended | expired
  · exact .inl (List.mem_of_mem_filter begun)
  · exact .inr (.inl (waits_about waits))
  · exact .inr (.inr (.inl (ended_about ended)))
  · exact .inr (.inr (.inr (List.mem_of_mem_filter expired)))

theorem single_published {outcome : Except Fault SuggestTagsResponse}
    (account : (l.about id).Account) (member : (id, outcome) ∈ l.published) :
    l.Ended id outcome ∨ id ∈ l.expired := by
  have published : (id, outcome) ∈ (l.about id).published := List.mem_filter.mpr ⟨member, by simp⟩
  rcases account.published id outcome published with ended | expired
  · exact .inl (ended_about ended)
  · exact .inr (List.mem_of_mem_filter expired)

end Ledger

end MemoAssist

import MemoAssist.Proofs.Tagging.Custody

/-! What became of every job. A job that was accepted was begun, or waits, or failed because the work
stopped; a job that was worked on keeps its outcome. Either may be forgotten after its end. -/
namespace MemoAssist

namespace TagJob

variable {job : TagJob} {outcome : Except Fault SuggestTagsResponse}

/-- The job says that it came to an outcome. -/
def Bears (outcome : Except Fault SuggestTagsResponse) (job : TagJob) : Prop :=
  match outcome with
  | .ok response => job.status = .completed ∧ job.result = some response
  | .error fault => job.status = .failed ∧ job.fault = some fault

private theorem finished_bears {moment : Instant} : (job.finished outcome moment).Bears outcome := by
  cases outcome <;> exact ⟨rfl, rfl⟩

theorem Bears.final (bears : job.Bears outcome) : job.status.isFinal = true := by
  cases outcome <;> simp [bears.1, JobStatus.isFinal]

private theorem finished_ne_pending {moment : Instant} :
    (job.finished outcome moment).status ≠ .pending := by
  cases outcome <;> exact fun same => nomatch same

private theorem finished_ne_running {moment : Instant} :
    (job.finished outcome moment).status ≠ .running := by
  cases outcome <;> exact fun same => nomatch same

end TagJob

namespace Hold

/-- The job is recorded, and nobody works on it yet. -/
def waits : Hold → Bool
  | .offered _ | .taken _ => true
  | _ => false

def works : Hold → Bool
  | .begun _ | .asked _ => true
  | _ => false

end Hold

namespace Ledger

variable {l l' : Ledger} {limit : Int} {x : Holder} {id : String}

/-- The job is queued, or was just taken out of the queue. -/
def Waits (l : Ledger) (id : String) : Prop :=
  id ∈ l.board.queue ∨ ∃ x, l.hold x = some (.taken id)

/-- The board says that a job came to an outcome. -/
def Ended (l : Ledger) (id : String) (outcome : Except Fault SuggestTagsResponse) : Prop :=
  ∃ job, l.board.find? id = some job ∧ job.Bears outcome

/-- No job is lost. -/
structure Account (l : Ledger) : Prop where
  accepted : ∀ id ∈ l.accepted,
    id ∈ l.begun ∨ l.Waits id ∨ l.Ended id (.error JobBoard.stopped) ∨ id ∈ l.expired
  published : ∀ id outcome, (id, outcome) ∈ l.published → l.Ended id outcome ∨ id ∈ l.expired

theorem blank_account : blank.Account := ⟨nofun, nofun⟩

private theorem Step.expired_grows (step : Step limit l l') (member : id ∈ l.expired) :
    id ∈ l'.expired := by
  cases step with
  | still | draw => exact member
  | handle handling => cases handling <;> exact member
  | expire => exact List.mem_append_left _ member

private theorem Step.begun_grows (step : Step limit l l') (member : id ∈ l.begun) : id ∈ l'.begun := by
  cases step with
  | still | draw | expire => exact member
  | handle handling =>
    cases handling with
    | begin => exact List.mem_append_left _ member
    | _ => exact member

/-- A job keeps its outcome until it is forgotten. -/
theorem Step.ended {outcome : Except Fault SuggestTagsResponse} (step : Step limit l l')
    (sound : l.Sound limit) (distinct : l'.drawn.Nodup) (ended : l.Ended id outcome) :
    l'.Ended id outcome ∨ id ∈ l'.expired := by
  obtain ⟨job, found, bears⟩ := ended
  cases step with
  | still | draw => exact .inl ⟨job, found, bears⟩
  | @handle _ _ other handling =>
    by_cases same : id = other
    · exact absurd (same ▸ sound.settled found bears.final) (handling.unsettled distinct)
    · exact .inl ⟨job, ((handling.touches sound.place).found id same).trans found, bears⟩
  | @expire cutoff =>
    by_cases old : JobBoard.isExpired cutoff job
    · have listed : job ∈ l.board.jobs.filter (JobBoard.isExpired cutoff) :=
        List.mem_filter.mpr ⟨JobBoard.find?_mem found, old⟩
      have named : job.id = id := JobBoard.find?_id found
      exact .inr (List.mem_append_right _ (named ▸ List.mem_map_of_mem listed))
    · refine .inl ⟨job, ?_, bears⟩
      simp [JobBoard.find?_expire sound.ids, found, Option.filter, old]

/-- Whoever takes a job out of the queue begins it or fails it. -/
theorem Handling.waits {other : String} (handling : Handling limit x other l l')
    (sound : l.Sound limit) (waits : l.Waits id) :
    id ∈ l'.begun ∨ l'.Waits id ∨ l'.Ended id (.error JobBoard.stopped) := by
  rcases waits with queued | ⟨y, holds⟩
  · cases handling with
    | name | drop | record | withdraw | begin | lose | ask | finish | abandon =>
      exact .inr (.inl (.inl queued))
    | accept => exact .inr (.inl (.inl (List.mem_append_left _ queued)))
    | take empty next =>
      rw [next] at queued
      rcases List.mem_cons.mp queued with rfl | later
      · exact .inr (.inl (.inr ⟨x, by simp⟩))
      · exact .inr (.inl (.inl later))
  · by_cases same : y = x
    · subst same
      cases handling with
      | name empty | take empty => exact nomatch empty.symm.trans holds
      | drop has | record has | accept has | withdraw has | ask has | finish has =>
        exact nomatch has.symm.trans holds
      | begin has =>
        obtain rfl : other = id := by simpa using has.symm.trans holds
        exact .inl (List.mem_append_right _ (List.mem_singleton_self _))
      | lose has unknown =>
        obtain rfl : other = id := by simpa using has.symm.trans holds
        obtain ⟨_, _, job, found, _⟩ := (sound.place other).of_hold (h := .taken other) holds
        exact nomatch unknown.symm.trans found
      | @abandon _ c _ moment has =>
        obtain rfl : other = id := by simpa using has.symm.trans holds
        obtain ⟨_, _, job, found, pending, _⟩ :=
          (sound.place other).of_hold (h := .taken other) holds
        refine .inr (.inr ⟨JobBoard.abandon moment job, by simp [find?_abandon, found], ?_⟩)
        simp only [JobBoard.abandon, pending, if_true]
        exact TagJob.finished_bears
    · have kept := (handling.touches sound.place).others y same
      exact .inr (.inl (.inr ⟨y, kept.trans holds⟩))

theorem Step.waits (step : Step limit l l') (sound : l.Sound limit) (waits : l.Waits id) :
    id ∈ l'.begun ∨ l'.Waits id ∨ l'.Ended id (.error JobBoard.stopped) := by
  cases step with
  | still | draw | expire => exact .inr (.inl waits)
  | handle handling => exact handling.waits sound waits

/-- A job that is accepted now is queued now. -/
theorem Step.accepted (step : Step limit l l') (member : id ∈ l'.accepted) :
    id ∈ l.accepted ∨ l'.Waits id := by
  cases step with
  | still | draw | expire => exact .inl member
  | handle handling =>
    cases handling with
    | accept =>
      rcases List.mem_append.mp member with earlier | now
      · exact .inl earlier
      · exact .inr (.inl (List.mem_append_right _ now))
    | _ => exact .inl member

/-- A job that is published now has its outcome now. -/
theorem Step.published {outcome : Except Fault SuggestTagsResponse} (step : Step limit l l')
    (sound : l.Sound limit) (member : (id, outcome) ∈ l'.published) :
    (id, outcome) ∈ l.published ∨ l'.Ended id outcome := by
  cases step with
  | still | draw | expire => exact .inl member
  | handle handling =>
    cases handling with
    | @finish _ _ job _ moment holds =>
      rcases List.mem_append.mp member with earlier | now
      · exact .inl earlier
      · obtain ⟨rfl, rfl⟩ := Prod.mk.inj (List.mem_singleton.mp now)
        obtain ⟨_, _, found, _⟩ := (sound.place job.id).of_hold (h := .asked job) holds
        obtain ⟨here, _⟩ := change_found (job.finished outcome moment) found TagJob.finished_id
        exact .inr ⟨_, here, TagJob.finished_bears⟩
    | _ => exact .inl member

/-- No step loses a job. -/
theorem Step.account (step : Step limit l l') (sound : l.Sound limit) (distinct : l'.drawn.Nodup)
    (account : l.Account) : l'.Account where
  accepted id member := by
    rcases step.accepted member with earlier | waits
    · rcases account.accepted id earlier with begun | waits | ended | expired
      · exact .inl (step.begun_grows begun)
      · rcases step.waits sound waits with begun | waits | ended
        · exact .inl begun
        · exact .inr (.inl waits)
        · exact .inr (.inr (.inl ended))
      · exact .inr (.inr (step.ended sound distinct ended))
      · exact .inr (.inr (.inr (step.expired_grows expired)))
    · exact .inr (.inl waits)
  published id outcome member := by
    rcases step.published sound member with earlier | ended
    · rcases account.published id outcome earlier with ended | expired
      · exact step.ended sound distinct ended
      · exact .inr (step.expired_grows expired)
    · exact .inl ended

/-! ### Nobody forgets a job in hand -/

/-- Somebody has an id in hand, in one of some ways. -/
def Tends (l : Ledger) (way : Hold → Bool) (id : String) : Prop :=
  ∃ x h, l.hold x = some h ∧ h.id = id ∧ way h = true

/-- What waits is queued or in a hand, and what runs is in a hand, even if ids are drawn twice. -/
structure Tended (l : Ledger) : Prop where
  fresh : ∀ x job, l.hold x = some (.fresh job) → job.status = .pending
  pending : ∀ job ∈ l.board.jobs, job.status = .pending →
    job.id ∈ l.board.queue ∨ l.Tends Hold.waits job.id
  running : ∀ job ∈ l.board.jobs, job.status = .running → l.Tends Hold.works job.id

theorem blank_tended : blank.Tended where
  fresh _ _ holds := nomatch holds
  pending _ member := (List.not_mem_nil member).elim
  running _ member := (List.not_mem_nil member).elim

/-- A hand with something else in it may change. -/
theorem Tends.put {way : Hold → Bool} {h : Hold} {new : Option Hold} (tends : l.Tends way id)
    (holds : l.hold x = some h) (apart : h.id = id → way h = false) :
    (l.put x new).Tends way id := by
  obtain ⟨y, k, held, named, kept⟩ := tends
  by_cases same : y = x
  · subst same
    obtain rfl := Option.some.inj (holds.symm.trans held)
    exact nomatch kept.symm.trans (apart named)
  · exact ⟨y, k, by simp [same, held], named, kept⟩

private theorem Tends.put_empty {way : Hold → Bool} {new : Option Hold} (tends : l.Tends way id)
    (empty : l.hold x = none) : (l.put x new).Tends way id := by
  obtain ⟨y, k, held, named, kept⟩ := tends
  have other : y ≠ x := fun same => nomatch (same ▸ empty).symm.trans held
  exact ⟨y, k, by simp [other, held], named, kept⟩

theorem tends_put {way : Hold → Bool} {h : Hold} (named : h.id = id) (kept : way h = true) :
    (l.put x (some h)).Tends way id := ⟨x, h, by simp, named, kept⟩

/-- Only a job nobody has worked on is put into a hand as a fresh one. -/
theorem Handling.fresh {other : String} (handling : Handling limit x other l l')
    (tended : l.Tended) (y : Holder) (job : TagJob) (holds' : l'.hold y = some (.fresh job)) :
    job.status = .pending := by
  have old {new : Option Hold} (holds : Function.update l.hold x new y = some (.fresh job))
      (other : new ≠ some (.fresh job)) : job.status = .pending := by
    by_cases same : y = x
    · rw [same, Function.update_self] at holds
      exact absurd holds other
    · rw [Function.update_of_ne same] at holds
      exact tended.fresh y job holds
  cases handling with
  | @name _ _ new empty blank =>
    by_cases same : y = x
    · obtain rfl : new = job := by simpa [same] using holds'
      exact blank.1
    · exact tended.fresh y job (by simpa [same] using holds')
  | drop | record | accept | withdraw | take | begin | lose | ask | finish | abandon =>
    exact old holds' (by simp)

private theorem abandon_ne_pending {job : TagJob} {moment : Instant} :
    (JobBoard.abandon moment job).status ≠ .pending := by
  unfold JobBoard.abandon
  split
  · exact TagJob.finished_ne_pending
  · assumption

/-- A job that runs is not abandoned. -/
theorem abandon_running {job : TagJob} {moment : Instant}
    (busy : (JobBoard.abandon moment job).status = .running) :
    job.status = .running ∧ JobBoard.abandon moment job = job := by
  unfold JobBoard.abandon at busy ⊢
  split at busy
  · exact absurd busy TagJob.finished_ne_running
  · rename_i late
    exact ⟨busy, if_neg late⟩

/-- What waits after a job was handled is queued or in a hand. -/
theorem Handling.pending {other : String} (handling : Handling limit x other l l')
    (tended : l.Tended) {job : TagJob} (member : job ∈ l'.board.jobs)
    (waiting : job.status = .pending) :
    job.id ∈ l'.board.queue ∨ l'.Tends Hold.waits job.id := by
  have before (listed : job ∈ l.board.jobs) : job.id ∈ l.board.queue ∨ l.Tends Hold.waits job.id :=
    tended.pending job listed waiting
  cases handling with
  | name empty => exact (before member).imp_right fun tends => tends.put_empty empty
  | drop holds | ask holds =>
    exact (before member).imp_right fun tends => tends.put holds fun _ => rfl
  | record holds =>
    rcases JobBoard.mem_record member with rfl | listed
    · exact .inr (tends_put rfl rfl)
    · exact (before listed).imp_right fun tends => tends.put holds fun _ => rfl
  | @accept _ _ offered holds =>
    by_cases same : job.id = offered.id
    · exact .inl (by simp [same])
    · rcases before member with queued | tends
      · exact .inl (List.mem_append_left _ queued)
      · exact .inr (tends.put holds fun named => absurd named.symm same)
  | @withdraw _ _ offered holds =>
    obtain ⟨listed, kept⟩ := List.mem_filter.mp member
    have apart : job.id ≠ offered.id := by simpa using kept
    exact (before listed).imp_right fun tends => tends.put holds fun named =>
      absurd named.symm apart
  | take empty next =>
    rcases before member with queued | tends
    · rw [next] at queued
      rcases List.mem_cons.mp queued with first | later
      · exact .inr (tends_put first.symm rfl)
      · exact .inl later
    · exact .inr (tends.put_empty empty)
  | begin holds found =>
    rcases JobBoard.mem_change member with ⟨_, _, _, rfl⟩ | ⟨apart, listed⟩
    · exact nomatch waiting
    · exact (before listed).imp_right fun tends => tends.put holds fun named =>
        absurd named.symm apart
  | lose holds unknown =>
    have apart : job.id ≠ other := fun same =>
      JobBoard.find?_eq_none.mp unknown (same ▸ List.mem_map_of_mem member)
    exact (before member).imp_right fun tends => tends.put holds fun named =>
      absurd named.symm apart
  | finish holds =>
    rcases JobBoard.mem_change member with ⟨_, _, _, rfl⟩ | ⟨apart, listed⟩
    · exact absurd waiting TagJob.finished_ne_pending
    · exact (before listed).imp_right fun tends => tends.put holds fun _ => rfl
  | @abandon _ _ _ moment holds =>
    rcases JobBoard.mem_change member with ⟨old, _, _, rfl⟩ | ⟨apart, listed⟩
    · exact absurd waiting abandon_ne_pending
    · exact (before listed).imp_right fun tends => tends.put holds fun named =>
        absurd named.symm apart

/-- What runs after a job was handled is in a hand. -/
theorem Handling.running {other : String} (handling : Handling limit x other l l')
    (tended : l.Tended) {job : TagJob} (member : job ∈ l'.board.jobs)
    (busy : job.status = .running) : l'.Tends Hold.works job.id := by
  have before (listed : job ∈ l.board.jobs) : l.Tends Hold.works job.id :=
    tended.running job listed busy
  cases handling with
  | name empty | take empty => exact (before member).put_empty empty
  | drop holds | accept holds | lose holds => exact (before member).put holds fun _ => rfl
  | record holds =>
    rcases JobBoard.mem_record member with rfl | listed
    · exact nomatch (tended.fresh x _ holds).symm.trans busy
    · exact (before listed).put holds fun _ => rfl
  | withdraw holds => exact (before (List.mem_of_mem_filter member)).put holds fun _ => rfl
  | begin holds found =>
    rcases JobBoard.mem_change member with ⟨_, _, _, rfl⟩ | ⟨apart, listed⟩
    · exact tends_put rfl rfl
    · exact (before listed).put holds fun _ => rfl
  | @ask _ _ begun holds =>
    by_cases same : job.id = begun.id
    · exact tends_put same.symm rfl
    · exact (before member).put holds fun named => absurd named.symm same
  | finish holds =>
    rcases JobBoard.mem_change member with ⟨_, _, _, rfl⟩ | ⟨apart, listed⟩
    · exact absurd busy TagJob.finished_ne_running
    · exact (before listed).put holds fun named => absurd named.symm apart
  | @abandon _ _ _ moment holds =>
    rcases JobBoard.mem_change member with ⟨old, listed, named, rfl⟩ | ⟨apart, listed⟩
    · obtain ⟨early, same⟩ := abandon_running busy
      rw [same]
      exact (tended.running old listed early).put holds fun _ => rfl
    · exact (before listed).put holds fun _ => rfl

/-- No step loses sight of a job. -/
theorem Step.tended (step : Step limit l l') (tended : l.Tended) : l'.Tended := by
  cases step with
  | still => exact tended
  | draw => exact ⟨tended.fresh, tended.pending, tended.running⟩
  | handle handling =>
    exact ⟨handling.fresh tended, fun _ => handling.pending tended, fun _ => handling.running tended⟩
  | expire =>
    exact ⟨tended.fresh, fun job member => tended.pending job (List.mem_of_mem_filter member),
      fun job member => tended.running job (List.mem_of_mem_filter member)⟩

end Ledger

end MemoAssist

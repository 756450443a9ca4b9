import MemoAssist.Proofs.Tagging.Agreement
import MemoAssist.Proofs.Tagging.Metering

/-! Requests for tags that fail, at once or for a job. Each way to fail is found at its own point,
after more or less was done; what was done is undone by then, but for the request that was
counted. -/
namespace MemoAssist

namespace JobBoard

variable {b : JobBoard} {job : TagJob}

/-- A new job is recorded at the end. -/
theorem record_new (fresh : b.find? job.id = none) :
    b.record job = { b with jobs := b.jobs ++ [job] } := by
  have absent : job.id ∉ b.jobs.map TagJob.id := find?_eq_none.mp fresh
  obtain ⟨jobs, queue⟩ := b
  simp only [record] at absent ⊢
  congr 1
  induction jobs with
  | nil => rfl
  | cons head rest ih =>
    have apart : head.id ≠ job.id := Ne.symm (List.ne_of_not_mem_cons absent)
    have later := ih (find?_eq_none.mpr (List.not_mem_of_not_mem_cons absent))
      (List.not_mem_of_not_mem_cons absent)
    simp only [put, if_neg apart, later, List.cons_append]

/-- To withdraw a new job that was recorded is to undo this. -/
theorem withdraw_record (fresh : b.find? job.id = none) : (b.record job).withdraw job.id = b := by
  have others : b.jobs.filter (fun other => other.id ≠ job.id) = b.jobs := by
    rw [List.filter_eq_self]
    intro other member
    have absent := List.find?_eq_none.mp fresh other member
    simpa using absent
  rw [record_new fresh, withdraw, List.filter_append, others]
  simp

end JobBoard

namespace Tagging

open Room

variable {τ κ β : Type} [TimeScale τ] {backend : Backend τ κ β} {scope : ScopeId}
  {user memo : Int} {content : String} {existing : List String} {room after : Room τ κ β}
  {f : Fault}

/-! ### Tags at once -/

/-- The ways in which a request for tags at once fails, and the room after each. -/
inductive SuggestFails (backend : Backend τ κ β) (scope : ScopeId) (user : Int) (content : String)
    (existing : List String) (room : Room τ κ β) : Fault → Room τ κ β → Prop where
  | disabled (off : room.tagger.config.enabled = false) :
      SuggestFails backend scope user content existing room disabled room
  | overQuota (on : room.tagger.config.enabled = true) (spent : admits user room = false) :
      SuggestFails backend scope user content existing room (.of .quotaExceeded) (counted user room)
  | unanswered {fault left} (on : room.tagger.config.enabled = true)
      (admitted : admits user room = true) (absent : recalled content existing room = none)
      (asked : ask backend scope content existing (counted user room) = (.error fault, left)) :
      SuggestFails backend scope user content existing room fault left

private theorem suggest_disabled (off : room.tagger.config.enabled = false) :
    suggest backend scope user content existing room = (.error disabled, room) := by
  have barred : requireEnabled room = (.error disabled, room) := by
    change require room.tagger.config.enabled disabled room = _
    rw [off]
    rfl
  exact Act.bind_error barred

private theorem failed_suggest
    (failed : suggest backend scope user content existing room = (.error f, after)) :
    SuggestFails backend scope user content existing room f after := by
  cases on : room.tagger.config.enabled with
  | false =>
    cases (suggest_disabled on).symm.trans failed
    exact .disabled on
  | true =>
    cases admitted : admits user room with
    | false =>
      cases (suggest_refused on admitted).symm.trans failed
      exact .overQuota on admitted
    | true =>
      have asked := (suggest_admitted on admitted).symm.trans failed
      cases absent : recalled content existing room with
      | some tags =>
        rw [absent] at asked
        cases asked
      | none =>
        rw [absent] at asked
        have said := consult_outcome.symm.trans (congrArg Prod.fst asked)
        -- A fault of the backend ends the request on the spot.
        have stays : consult backend scope user content existing (counted user room) =
            (.error f, (ask backend scope content existing (counted user room)).2) :=
          Act.bind_error (Prod.ext said rfl)
        cases stays.symm.trans asked
        exact .unanswered on admitted absent (Prod.ext said rfl)

/-! ### Tags by a job -/

/-- The ways in which a request for a job fails, and the room after each. -/
inductive SubmitFails (user memo : Int) (content : String) (existing : List String)
    (room : Room τ κ β) : Fault → Room τ κ β → Prop where
  | disabled (off : room.tagger.config.takesJobs = false) :
      SubmitFails user memo content existing room jobsDisabled room
  | stopped (on : room.tagger.config.takesJobs = true) (halted : room.tagger.stopped = true) :
      SubmitFails user memo content existing room stopped room
  | overQuota (on : room.tagger.config.takesJobs = true) (running : room.tagger.stopped = false)
      (spent : admits user room = false) :
      SubmitFails user memo content existing room (.of .quotaExceeded) (counted user room)
  | outOfRange (on : room.tagger.config.takesJobs = true) (running : room.tagger.stopped = false)
      (admitted : admits user room = true) (narrow : isWide memo = false) :
      SubmitFails user memo content existing room (.of .outOfRange) (counted user room)
  | queueFull {job : TagJob} {id created entropy} (on : room.tagger.config.takesJobs = true)
      (running : room.tagger.stopped = false) (admitted : admits user room = true)
      (absent : recalled content existing room = none)
      (named : (newJobId memo content room).1 = .ok id)
      (fresh : job = { id, memo, content, existing, user, created })
      (full : room.tagger.board.isFull room.tagger.config.queueLimit = true) :
      SubmitFails user memo content existing room (.of .queueFull)
        { counted user room with
          world := { room.world with entropy }
          tagger := { (counted user room).tagger with
            board := (room.tagger.board.record job).withdraw id } }

omit [TimeScale τ] in
private theorem requireOpen_ok (on : room.tagger.config.takesJobs = true)
    (running : room.tagger.stopped = false) : requireOpen room = (.ok (), room) := by
  rw [requireOpen_eq, on, running]
  rfl

private theorem submit_refused (on : room.tagger.config.takesJobs = true)
    (running : room.tagger.stopped = false) (spent : admits user room = false) :
    submit user memo content existing room = (.error (.of .quotaExceeded), counted user room) := by
  have metered := grant_eq user room
  rw [spent] at metered
  rw [submit, Act.bind_ok (requireOpen_ok on running)]
  exact Act.bind_error metered

/-- What is left to do for a request that was counted. -/
theorem submit_admitted (on : room.tagger.config.takesJobs = true)
    (running : room.tagger.stopped = false) (admitted : admits user room = true) :
    submit user memo content existing room =
      (newJob user memo content existing >>= fun job =>
        match recalled content existing room with
        | some tags => pure (job.finished (.ok { tags }) job.created)
        | none => handIn job : Work τ κ β TagJob) (counted user room) := by
  have metered := grant_eq user room
  rw [admitted] at metered
  have looked : cached content existing (counted user room) =
      (.ok (recalled content existing room), counted user room) := rfl
  rw [submit, Act.bind_ok (requireOpen_ok on running), Act.bind_ok metered, Act.bind_ok looked]
  rfl

private theorem newJob_narrow (narrow : isWide memo = false) :
    newJob user memo content existing room = (.error (.of .outOfRange), room) := by
  unfold newJob newJobId
  rw [narrow]
  rfl

/-- A job that was made has the id that was drawn for it. -/
theorem newJob_named (user : Int) (content : String) (existing : List String) (room : Room τ κ β)
    (wide : isWide memo = true) : ∃ id created entropy,
      (newJobId memo content room).1 = .ok id ∧ newJob user memo content existing room =
        (.ok { id, memo, content, existing, user, created },
          { room with world := { room.world with entropy } }) := by
  unfold newJob newJobId
  rw [wide]
  exact ⟨_, _, _, rfl, rfl⟩

/-- The quota has no part in an id. -/
theorem newJobId_counted (user memo : Int) (content : String) (room : Room τ κ β) :
    (newJobId memo content (counted user room)).1 = (newJobId memo content room).1 := by
  unfold newJobId
  cases isWide memo <;> rfl

omit [TimeScale τ] in
/-- A job waits once it was handed in, or is withdrawn as soon as it is recorded. -/
theorem handIn_if {job : TagJob} (running : room.tagger.stopped = false) : handIn job room =
    if room.tagger.board.isFull room.tagger.config.queueLimit then
      (.error (.of .queueFull), { room with tagger := { room.tagger with
        board := (room.tagger.board.record job).withdraw job.id } })
    else
      (.ok job, { room with tagger := { room.tagger with
        board := (room.tagger.board.record job).enqueue job.id } }) := by
  have running' : requireRunning room = (.ok (), room) := by
    rw [requireRunning_eq, running]
    rfl
  have recorded : record job room = (.ok (), { room with
      tagger := { room.tagger with board := room.tagger.board.record job } }) := rfl
  have offered : offer job.id { room with
      tagger := { room.tagger with board := room.tagger.board.record job } } =
    if room.tagger.board.isFull room.tagger.config.queueLimit then
      (.ok false, { room with
        tagger := { room.tagger with board := room.tagger.board.record job } })
    else (.ok true, { room with tagger := { room.tagger with
      board := (room.tagger.board.record job).enqueue job.id } }) := offer_eq job.id
  rw [handIn, Act.bind_ok running', Act.bind_ok recorded, queueUp]
  cases full : room.tagger.board.isFull room.tagger.config.queueLimit with
  | true =>
    rw [full] at offered
    exact Act.bind_ok offered
  | false =>
    rw [full] at offered
    exact Act.bind_ok offered

private theorem failed_submit (failed : submit user memo content existing room = (.error f, after)) :
    SubmitFails user memo content existing room f after := by
  cases on : room.tagger.config.takesJobs with
  | false =>
    have barred : requireOpen room = (.error jobsDisabled, room) := by
      rw [requireOpen_eq, on]
      rfl
    cases (Act.bind_error barred).symm.trans failed
    exact .disabled on
  | true =>
    cases running : room.tagger.stopped with
    | true =>
      have barred : requireOpen room = (.error stopped, room) := by
        rw [requireOpen_eq, on, running]
        rfl
      cases (Act.bind_error barred).symm.trans failed
      exact .stopped on running
    | false =>
      cases admitted : admits user room with
      | false =>
        cases (submit_refused on running admitted).symm.trans failed
        exact .overQuota on running admitted
      | true =>
        have rest := (submit_admitted on running admitted).symm.trans failed
        cases wide : isWide memo with
        | false =>
          cases (Act.bind_error (newJob_narrow wide)).symm.trans rest
          exact .outOfRange on running admitted wide
        | true =>
          obtain ⟨id, created, entropy, named, made⟩ :=
            newJob_named user content existing (counted user room) wide
          replace rest := (Act.bind_ok made).symm.trans rest
          cases absent : recalled content existing room with
          | some tags =>
            rw [absent] at rest
            cases rest
          | none =>
            rw [absent] at rest
            change handIn _ _ = _ at rest
            have handed := (handIn_if (by exact running)).symm.trans rest
            split at handed
            · next full =>
              cases handed
              rw [newJobId_counted] at named
              exact .queueFull on running admitted absent named rfl full
            · cases handed

/-! ### What is left of it -/

/-- What a request that failed has left of the room. It had `entered` if the tagger takes such
requests. -/
structure Unharmed (user : Int) (entered : Prop) (before after : Room τ κ β) : Prop where
  /-- The cache, the jobs in their order, the queue and the callback are as before, and so is all of
  the tagger but the quota. -/
  kept : { after.tagger with quota := before.tagger.quota } = before.tagger
  /-- Whoever is turned away at the entrance or by the quota is not counted. -/
  uncounted : ¬ entered ∨ admits user before = false →
    after.tagger.quota = before.tagger.quota
  /-- Whoever was let in is counted once. -/
  counted : entered → admits user before = true →
    after.tagger.quota = (counted user before).tagger.quota
  others : ∀ someone, someone ≠ user →
    after.tagger.quota.find? someone = before.tagger.quota.find? someone

private theorem unharmed_same {entered : Prop} (out : ¬ entered) : Unharmed user entered room room :=
  ⟨rfl, fun _ => rfl, fun inside => absurd inside out, fun _ _ => rfl⟩

private theorem counted_refused (spent : admits user room = false) : counted user room = room := by
  have same := QuotaTable.grant_refused spent
  rw [counted, same]

/-- Only the request itself was counted since. -/
theorem unharmed_counted {entered : Prop} (inside : entered) (admitted : admits user room = true)
    (tagger : after.tagger = (counted user room).tagger) : Unharmed user entered room after where
  kept := by rw [tagger]; rfl
  uncounted out := by
    rcases out with out | spent
    · exact absurd inside out
    · rw [admitted] at spent
      cases spent
  counted _ _ := congrArg Tagger.quota tagger
  others _ apart := by
    rw [tagger]
    exact QuotaTable.grant_elsewhere apart

/-- Whoever is turned away by the quota leaves nothing behind. -/
theorem unharmed_refused {entered : Prop} (spent : admits user room = false) :
    Unharmed user entered room (counted user room) := by
  rw [counted_refused spent]
  refine ⟨rfl, fun _ => rfl, ?_, fun _ _ => rfl⟩
  intro _ admitted
  rw [spent] at admitted
  cases admitted

private theorem SuggestFails.unharmed
    (failed : SuggestFails backend scope user content existing room f after)
    (apart : ∀ scope request room, (backend scope request room).2.tagger = room.tagger) :
    Unharmed user (room.tagger.config.enabled = true) room after := by
  cases failed with
  | disabled off => exact unharmed_same (by simp [off])
  | overQuota on spent => exact unharmed_refused spent
  | unanswered on admitted absent asked =>
    have left : (ask backend scope content existing (counted user room)).2.tagger =
        (counted user room).tagger := apart ..
    rw [asked] at left
    exact unharmed_counted on admitted left

private theorem SubmitFails.unharmed (failed : SubmitFails user memo content existing room f after)
    (fresh : ∀ id, (newJobId memo content room).1 = .ok id → room.tagger.board.find? id = none) :
    Unharmed user (room.tagger.config.takesJobs = true ∧ room.tagger.stopped = false) room
      after := by
  cases failed with
  | disabled off => exact unharmed_same (by simp [off])
  | stopped on halted => exact unharmed_same (by simp [halted])
  | overQuota on running spent => exact unharmed_refused spent
  | outOfRange on running admitted narrow => exact unharmed_counted ⟨on, running⟩ admitted rfl
  | @queueFull job id created entropy on running admitted absent named made full =>
    have new : room.tagger.board.find? job.id = none := by
      rw [made]
      exact fresh id named
    have board : (room.tagger.board.record job).withdraw id = room.tagger.board := by
      have same := JobBoard.withdraw_record new
      rwa [made] at same ⊢
    refine unharmed_counted ⟨on, running⟩ admitted ?_
    change { (counted user room).tagger with
      board := (room.tagger.board.record job).withdraw id } = (counted user room).tagger
    rw [board]
    rfl

/-- A request for tags that fails, in one of the ways there are, harms nothing, as long as the
backend leaves the tagger alone and the id of the job is new. -/
theorem failures_harmless (backend : Backend τ κ β) (scope : ScopeId) (user memo : Int)
    (content : String) (existing : List String) (room : Room τ κ β)
    (apart : ∀ scope request room, (backend scope request room).2.tagger = room.tagger)
    (fresh : ∀ id, (newJobId memo content room).1 = .ok id → room.tagger.board.find? id = none) :
    (∀ f after, suggest backend scope user content existing room = (.error f, after) →
      SuggestFails backend scope user content existing room f after ∧
        Unharmed user (room.tagger.config.enabled = true) room after) ∧
    ∀ f after, submit user memo content existing room = (.error f, after) →
      SubmitFails user memo content existing room f after ∧
        Unharmed user (room.tagger.config.takesJobs = true ∧ room.tagger.stopped = false) room
          after := by
  constructor
  · intro f after failed
    have cause := failed_suggest failed
    exact ⟨cause, cause.unharmed apart⟩
  · intro f after failed
    have cause := failed_submit failed
    exact ⟨cause, cause.unharmed fresh⟩

/-- A second job in a queue for one. -/
theorem failures_harmless_full :
    let job : TagJob :=
      { id := "first", memo := 3, content := "a memo", existing := [], user := 7,
        created := Instant.origin }
    let new : Room Int Unit Unit :=
      enter { TaggingConfig.usual with queueLimit := 1 } (World.start (Client.ofReplies [])) ()
    let room := { new with tagger := { new.tagger with board := ⟨[job], ["first"]⟩ } }
    let backend : Backend Int Unit Unit := fun _ _ => pure { tags := ["lean"] }
    (∀ scope request room, (backend scope request room).2.tagger = room.tagger) ∧
      (∀ id, (newJobId 4 "another" room).1 = .ok id → room.tagger.board.find? id = none) ∧
      ∃ after, submit 7 4 "another" [] room = (.error (.of .queueFull), after) ∧
        Unharmed 7 (room.tagger.config.takesJobs = true ∧ room.tagger.stopped = false) room
          after := by
  intro job new room backend
  have apart : ∀ scope request room, (backend scope request room).2.tagger = room.tagger :=
    fun _ _ _ => rfl
  have fresh : ∀ id, (newJobId 4 "another" room).1 = .ok id →
      room.tagger.board.find? id = none := by
    intro id named
    cases named
    decide +kernel
  obtain ⟨after, failed⟩ : ∃ after,
      submit 7 4 "another" [] room = (.error (.of .queueFull), after) := by
    obtain ⟨id, created, entropy, -, made⟩ :=
      newJob_named 7 "another" [] (counted 7 room) (show isWide 4 = true by decide)
    have rest := (submit_admitted rfl rfl rfl).trans (Act.bind_ok made)
    exact ⟨_, rest.trans ((handIn_if rfl).trans (if_pos rfl))⟩
  exact ⟨apart, fresh, after, failed,
    ((failures_harmless backend 0 7 4 "another" [] room apart fresh).2 _ _ failed).2⟩

end Tagging

end MemoAssist

import MemoAssist.Proofs.Tagging.Steady

/-! Whoever is not interfered with. When nobody else takes a step in between, the steps of a client
come to what the tagger does at one go, in the same room and with the same outcome. -/
namespace MemoAssist

variable {τ κ β : Type}

private theorem Demand.entrance_room (d : Demand) {room : Room τ κ β} : (d.entrance room).2 = room := by
  unfold Demand.entrance
  cases d.purpose with
  | now => exact Tagging.require_room
  | later => exact congrArg Prod.snd Tagging.requireOpen_eq

variable [TimeScale τ]

namespace Tagging

open Room

/-- Let a recorded job wait, or take it back. -/
def queueUp (job : TagJob) : Work τ κ β TagJob := do
  if ← offer job.id then pure job
  else
    withdraw job.id
    Act.fail (.of .queueFull)

/-- Hand in a job that was made. -/
def handIn (job : TagJob) : Work τ κ β TagJob := do
  requireRunning
  record job
  queueUp job

/-- Ask the backend, and keep what it says. -/
def consult (backend : Backend τ κ β) (scope : ScopeId) (user : Int) (content : String)
    (existing : List String) : Work τ κ β SuggestTagsResponse := do
  let response ← ask backend scope content existing
  keep content existing response.tags
  reportTags user response
  pure response

end Tagging

namespace Office

variable {o o' o'' : Office τ κ β} {c : Nat} {d : Demand}

/-- One client goes on. -/
structure Onward (c : Nat) (o o' : Office τ κ β) : Prop where
  leads : Leads o o'
  others : ∀ other, other ≠ c → o'.clients other = o.clients other
  workers : o'.workers = o.workers
  signalled : o'.signalled = o.signalled

theorem Onward.trans (first : Onward c o o') (second : Onward c o' o'') : Onward c o o'' where
  leads := first.leads.trans second.leads
  others other apart := (second.others other apart).trans (first.others other apart)
  workers := second.workers.trans first.workers
  signalled := second.signalled.trans first.signalled

theorem CallStep.onward {stage : CallStage τ} (step : CallStep c d stage o o')
    (here : o.clients c = .call d stage) : Onward c o o' where
  leads := .single (.call here step)
  others _ apart := step.others apart
  workers := by cases step <;> rfl
  signalled := by cases step <;> rfl

/-- A client has come back with the outcome of some work. -/
structure Answered (c : Nat) (d : Demand) (o : Office τ κ β)
    (result : Except Fault Answer × Room τ κ β) (o' : Office τ κ β) : Prop where
  onward : Onward c o o'
  idle : o'.clients c = .idle
  unlocked : o'.door = none
  room : o'.room = result.2
  returned : ∃ entries, o'.log = o.log ++ entries ++ [.returned c d result.1]

/-- An outcome as the log has it. -/
def told {α : Type} (answer : α → Answer) (result : Except Fault α × Room τ κ β) :
    Except Fault Answer × Room τ κ β := (result.1.map answer, result.2)

theorem Onward.answered {result : Except Fault Answer × Room τ κ β} (onward : Onward c o o')
    (answered : Answered c d o' result o'') : Answered c d o result o'' := by
  obtain ⟨entries, grown⟩ := answered.returned
  obtain ⟨earlier, before⟩ := onward.leads.steady.log
  refine ⟨onward.trans answered.onward, answered.idle, answered.unlocked, answered.room,
    earlier ++ entries, ?_⟩
  rw [grown, ← before]
  simp

/-- The last step of a client who comes back. -/
theorem CallStep.answered {stage : CallStage τ} {before : Office τ κ β}
    {outcome : Except Fault Answer} (step : CallStep c d stage o (before.reply c d outcome))
    (here : o.clients c = .call d stage) (unlocked : before.door = none)
    (grown : o.log <+: before.log) :
    ∃ o', Answered c d o (outcome, before.room) o' := by
  obtain ⟨entries, same⟩ := grown
  exact ⟨_, step.onward here, clients_client, unlocked, rfl, entries, by rw [log_reply, ← same]⟩

theorem CallStep.follow {stage : CallStage τ} {result : Except Fault Answer × Room τ κ β}
    (step : CallStep c d stage o o') (here : o.clients c = .call d stage)
    (rest : ∃ o'', Answered c d o' result o'') : ∃ o'', Answered c d o result o'' := by
  obtain ⟨o'', answered⟩ := rest
  exact ⟨o'', (step.onward here).answered answered⟩

/-! ### Coming in -/

section Entrance

variable {α : Type} {answer : α → Answer} {rest : Room.Work τ κ β α}

private theorem metered_answered {now : τ} (here : o.clients c = .call d (.metered now))
    (unlocked : o.door = none)
    (next : ∀ o : Office τ κ β, o.clients c = .call d .recalling → o.door = none →
      ∃ o', Answered c d o (told answer (rest o.room)) o') :
    ∃ o', Answered c d o (told answer ((do Tagging.grantAt now d.user; rest) o.room)) o' := by
  cases outcome : (Tagging.grantAt now d.user o.room).1 with
  | ok =>
    have granted : Tagging.grantAt now d.user o.room =
        (.ok (), (Tagging.grantAt now d.user o.room).2) := Prod.ext outcome rfl
    rw [Act.bind_ok granted]
    exact CallStep.follow (.grant outcome) here (next _ clients_client unlocked)
  | error f =>
    have refused : Tagging.grantAt now d.user o.room =
        (.error f, (Tagging.grantAt now d.user o.room).2) := Prod.ext outcome rfl
    rw [Act.bind_error refused]
    exact (CallStep.overQuota outcome).answered here unlocked List.prefix_rfl

private theorem entering_answered (here : o.clients c = .call d .entering) (unlocked : o.door = none)
    (next : ∀ o : Office τ κ β, o.clients c = .call d .recalling → o.door = none →
      ∃ o', Answered c d o (told answer (rest o.room)) o') :
    ∃ o', Answered c d o (told answer ((do
      d.entrance
      Tagging.grant d.user
      rest) o.room)) o' := by
  cases outcome : (d.entrance o.room).1 with
  | ok =>
    have admitted : d.entrance o.room = (.ok (), o.room) := Prod.ext outcome d.entrance_room
    rw [Act.bind_ok admitted]
    exact CallStep.follow (.enter outcome) here
      (CallStep.follow .read clients_client (metered_answered clients_client unlocked next))
  | error f =>
    have refused : d.entrance o.room = (.error f, o.room) := Prod.ext outcome d.entrance_room
    rw [Act.bind_error refused]
    exact (CallStep.barred outcome).answered here unlocked List.prefix_rfl

/-- A client comes in. -/
theorem calling_answered (free : o.clients c = .idle) (unlocked : o.door = none)
    (next : ∀ o : Office τ κ β, o.clients c = .call d .recalling → o.door = none →
      ∃ o', Answered c d o (told answer (rest o.room)) o') :
    ∃ o', Answered c d o (told answer ((do
      d.entrance
      Tagging.grant d.user
      rest) o.room)) o' := by
  have onward : Onward c o ((o.note (.called c d)).client c (.call d .entering)) :=
    ⟨.single (.aside (.call free)), fun _ apart => clients_client_of_ne apart, rfl, rfl⟩
  obtain ⟨o', answered⟩ := entering_answered (o := (o.note (.called c d)).client c
    (.call d .entering)) clients_client unlocked next
  exact ⟨o', onward.answered answered⟩

end Entrance

/-! ### Jobs -/

private theorem leaving_answered {outcome : Except Fault TagJob}
    (here : o.clients c = .call d (.leaving outcome)) :
    ∃ o', Answered c d o (outcome.map Answer.job, o.room) o' :=
  CallStep.leave.answered here rfl List.prefix_rfl

private theorem offering_answered {job : TagJob} (here : o.clients c = .call d (.offering job)) :
    ∃ o', Answered c d o (told .job (Tagging.queueUp job o.room)) o' := by
  unfold Tagging.queueUp
  cases full : o.room.tagger.board.isFull o.room.tagger.config.queueLimit with
  | false =>
    have offered : Tagging.offer job.id o.room =
        (.ok true, (Tagging.offer job.id o.room).2) := by simp [Tagging.offer_eq, full]
    rw [Act.bind_ok offered]
    exact CallStep.follow (.accept (congrArg Prod.fst offered)) here
      (leaving_answered clients_client)
  | true =>
    have refused : Tagging.offer job.id o.room = (.ok false, o.room) := by
      simp [Tagging.offer_eq, full]
    rw [Act.bind_ok refused]
    exact CallStep.follow (.full (congrArg Prod.fst refused)) here
      (CallStep.follow .withdraw clients_client (leaving_answered clients_client))

private theorem handIn_answered {job : TagJob} (here : o.clients c = .call d (.ready job))
    (unlocked : o.door = none) :
    ∃ o', Answered c d o (told .job (Tagging.handIn job o.room)) o' := by
  refine CallStep.follow (.lock unlocked) here ?_
  unfold Tagging.handIn
  have running := @Tagging.requireRunning_eq _ _ _ o.room
  cases halted : o.room.tagger.stopped with
  | true =>
    rw [halted] at running
    rw [Act.bind_error running]
    exact CallStep.follow (.tooLate (congrArg Prod.fst running)) clients_client
      (leaving_answered clients_client)
  | false =>
    rw [halted] at running
    have recorded : Tagging.record job o.room = (.ok (), (Tagging.record job o.room).2) := rfl
    rw [Act.bind_ok running, Act.bind_ok recorded]
    exact CallStep.follow (.proceed (congrArg Prod.fst running)) clients_client
      (CallStep.follow .record clients_client (offering_answered clients_client))

private theorem newJob_cases (d : Demand) (memo : Int) (room : Room τ κ β) :
    (∃ job, d.job memo room = (.ok job, (d.job memo room).2)) ∨
      ∃ f, d.job memo room = (.error f, (d.job memo room).2) := by
  cases outcome : (d.job memo room).1 with
  | ok job => exact .inl ⟨job, by rw [← outcome]⟩
  | error f => exact .inr ⟨f, by rw [← outcome]⟩

private theorem found_answered_later {memo : Int} {tags : List String} (later : d.purpose = .later memo)
    (here : o.clients c = .call d (.found tags)) (unlocked : o.door = none) :
    ∃ o', Answered c d o (told .job ((do
      let job ← d.job memo
      pure (job.finished (.ok { tags }) job.created)) o.room)) o' := by
  rcases newJob_cases d memo o.room with ⟨job, named⟩ | ⟨f, refused⟩
  · rw [Act.bind_ok named]
    exact (CallStep.serveJob later (congrArg Prod.fst named)).answered here unlocked ⟨_, rfl⟩
  · rw [Act.bind_error refused]
    exact (CallStep.unserved later (congrArg Prod.fst refused)).answered here unlocked
      List.prefix_rfl

private theorem missing_answered_later {memo : Int} (later : d.purpose = .later memo)
    (here : o.clients c = .call d .missing) (unlocked : o.door = none) :
    ∃ o', Answered c d o (told .job ((do Tagging.handIn (← d.job memo)) o.room)) o' := by
  rcases newJob_cases d memo o.room with ⟨job, named⟩ | ⟨f, refused⟩
  · rw [Act.bind_ok named]
    exact CallStep.follow (.name later (congrArg Prod.fst named)) here
      (handIn_answered clients_client unlocked)
  · rw [Act.bind_error refused]
    exact (CallStep.unnamed later (congrArg Prod.fst refused)).answered here unlocked
      List.prefix_rfl

/-- A client who wants a job and has the quota for it. -/
theorem recalling_answered_later {memo : Int} (later : d.purpose = .later memo)
    (here : o.clients c = .call d .recalling) (unlocked : o.door = none) :
    ∃ o', Answered c d o (told .job ((do
      let tags ← Tagging.cached d.content d.existing
      let job ← d.job memo
      match tags with
      | some tags => pure (job.finished (.ok { tags }) job.created)
      | none => Tagging.handIn job) o.room)) o' := by
  have looked := @Tagging.cached_eq _ _ _ o.room _ d.content d.existing
  rw [Act.bind_ok looked]
  cases kept : o.room.tagger.cache.lookUp o.room.tagger.config.cacheSpan o.room.world.time.now
      (Tagging.cacheKey d.content d.existing) with
  | some tags =>
    exact CallStep.follow (.hit (congrArg Except.ok kept)) here
      (found_answered_later later clients_client unlocked)
  | none =>
    exact CallStep.follow (.miss (congrArg Except.ok kept)) here
      (missing_answered_later later clients_client unlocked)

/-- A job is wanted while nobody else takes a step. -/
theorem submit_alone {memo : Int} (later : d.purpose = .later memo) (free : o.clients c = .idle)
    (unlocked : o.door = none) :
    ∃ o', Answered c d o
      (told .job (Tagging.submit d.user memo d.content d.existing o.room)) o' := by
  have rest := calling_answered free unlocked fun _ here unlocked =>
    recalling_answered_later later here unlocked
  rwa [Demand.entrance, later] at rest

/-! ### Tags at once -/

/-- Nobody of those in the office goes on. -/
structure Aloof (o o' : Office τ κ β) : Prop where
  leads : Leads o o'
  clients : o'.clients = o.clients
  workers : o'.workers = o.workers
  door : o'.door = o.door
  signalled : o'.signalled = o.signalled

/-- Some work is what may happen beside the tagger at any moment. -/
def Outside {α : Type} (work : Room.Work τ κ β α) : Prop :=
  ∀ o : Office τ κ β, ∃ o', Aloof o o' ∧ o'.room = (work o.room).2

theorem Aloof.trans (first : Aloof o o') (second : Aloof o' o'') : Aloof o o'' :=
  ⟨first.leads.trans second.leads, second.clients.trans first.clients,
    second.workers.trans first.workers, second.door.trans first.door,
    second.signalled.trans first.signalled⟩

theorem Outside.bind {α γ : Type} {work : Room.Work τ κ β α} {next : α → Room.Work τ κ β γ}
    (first : Outside work) (rest : ∀ a, Outside (next a)) : Outside (work >>= next) := by
  intro o
  obtain ⟨o₁, aloof, room⟩ := first o
  cases outcome : (work o.room).1 with
  | ok a =>
    have done : work o.room = (.ok a, o₁.room) := Prod.ext outcome room.symm
    obtain ⟨o₂, aloof', room'⟩ := rest a o₁
    exact ⟨o₂, aloof.trans aloof', by rw [Act.bind_ok done, room']⟩
  | error f =>
    have failed : work o.room = (.error f, o₁.room) := Prod.ext outcome room.symm
    exact ⟨o₁, aloof, by rw [Act.bind_error failed]⟩

theorem Aloof.onward (aloof : Aloof o o') : Onward c o o' :=
  ⟨aloof.leads, fun _ _ => congrFun aloof.clients _, aloof.workers, aloof.signalled⟩

variable {backend : Tagging.Backend τ κ β}

private theorem keeping_answered {response : SuggestTagsResponse}
    (here : o.clients c = .call d (.keeping response)) (unlocked : o.door = none) :
    ∃ o', Answered c d o (told .tags ((do
      Tagging.keep d.content d.existing response.tags
      Tagging.reportTags d.user response
      pure response) o.room)) o' :=
  CallStep.follow .keep here (CallStep.report.answered clients_client unlocked List.prefix_rfl)

private theorem awaiting_answered {inner : ScopeId} {request : SuggestTagsRequest}
    (outside : Outside (backend inner request))
    (here : o.clients c = .call d .awaiting) (unlocked : o.door = none) :
    ∃ o', Answered c d o (told .tags ((do
      let response ← backend inner request
      Tagging.keep d.content d.existing response.tags
      Tagging.reportTags d.user response
      pure response) o.room)) o' := by
  obtain ⟨o₁, aloof, room⟩ := outside o
  have still : o₁.clients c = .call d .awaiting := (congrFun aloof.clients c).trans here
  have open₁ : o₁.door = none := aloof.door.trans unlocked
  suffices rest : ∃ o', Answered c d o₁ (told .tags ((do
      let response ← backend inner request
      Tagging.keep d.content d.existing response.tags
      Tagging.reportTags d.user response
      pure response) o.room)) o' by
    obtain ⟨o', answered⟩ := rest
    exact ⟨o', aloof.onward.answered answered⟩
  cases outcome : (backend inner request o.room).1 with
  | ok response =>
    have done : backend inner request o.room = (.ok response, o₁.room) :=
      Prod.ext outcome room.symm
    rw [Act.bind_ok done]
    exact CallStep.follow .answer still (keeping_answered clients_client open₁)
  | error f =>
    have failed : backend inner request o.room = (.error f, o₁.room) :=
      Prod.ext outcome room.symm
    rw [Act.bind_error failed]
    exact CallStep.fail.answered still open₁ ⟨_, rfl⟩

private theorem missing_answered_now {scope : ScopeId} (at_once : d.purpose = .now scope)
    (outside : ∀ inner request, Outside (backend inner request))
    (here : o.clients c = .call d .missing) (unlocked : o.door = none) :
    ∃ o', Answered c d o (told .tags
      (Tagging.consult backend scope d.user d.content d.existing o.room)) o' := by
  refine CallStep.follow (.openInner at_once rfl) here ?_
  refine CallStep.follow .ask clients_client ?_
  exact awaiting_answered (outside _ _) clients_client unlocked

private theorem recalling_answered_now {scope : ScopeId} (at_once : d.purpose = .now scope)
    (outside : ∀ inner request, Outside (backend inner request))
    (here : o.clients c = .call d .recalling) (unlocked : o.door = none) :
    ∃ o', Answered c d o (told .tags ((do
      match ← Tagging.cached d.content d.existing with
      | some tags => pure ({ tags } : SuggestTagsResponse)
      | none => Tagging.consult backend scope d.user d.content d.existing) o.room)) o' := by
  have looked := @Tagging.cached_eq _ _ _ o.room _ d.content d.existing
  rw [Act.bind_ok looked]
  cases kept : o.room.tagger.cache.lookUp o.room.tagger.config.cacheSpan o.room.world.time.now
      (Tagging.cacheKey d.content d.existing) with
  | some tags =>
    exact CallStep.follow (.hit (congrArg Except.ok kept)) here
      ((CallStep.serve at_once).answered clients_client unlocked List.prefix_rfl)
  | none =>
    exact CallStep.follow (.miss (congrArg Except.ok kept)) here
      (missing_answered_now at_once outside clients_client unlocked)

/-- Tags are wanted at once while nobody else takes a step, except that the backend does what may
happen beside the tagger. -/
theorem suggest_alone {scope : ScopeId} (at_once : d.purpose = .now scope)
    (outside : ∀ inner request, Outside (backend inner request)) (free : o.clients c = .idle)
    (unlocked : o.door = none) :
    ∃ o', Answered c d o
      (told .tags (Tagging.suggest backend scope d.user d.content d.existing o.room)) o' := by
  have rest := calling_answered free unlocked fun o here unlocked =>
    recalling_answered_now at_once outside here unlocked
  rwa [Demand.entrance, at_once] at rest

end Office

end MemoAssist

import MemoAssist.Proofs.Scope.Descent
import MemoAssist.Proofs.Tagging.Alone
import MemoAssist.Proofs.Tagging.Board

/-! Tags at once and tags by a job agree. From the same room, and with a backend that treats like
requests alike, both count against the quota in the same way, find the same in the cache, ask the
backend for the same, keep the same result, and come to the same outcome. -/
namespace MemoAssist.Tagging

open Room

variable {τ κ β : Type} [TimeScale τ]

/-! ### The partners -/

/-- Two scopes, each in a room, in which a backend has no reason to act differently: it knows the
same at the same reading of the clock, neither scope is cancelled, and both end at one moment. -/
structure Alike (scope : ScopeId) (room : Room τ κ β) (scope' : ScopeId) (room' : Room τ κ β) :
    Prop where
  now : room.world.time.now = room'.world.time.now
  client : room.world.client = room'.world.client
  sent : room.world.sent = room'.world.sent
  partner : room.partner = room'.partner
  deadline : room.world.time.scopes.deadline scope = room'.world.time.scopes.deadline scope'
  standing : room.world.time.isCancelled scope = false
  standing' : room'.world.time.isCancelled scope' = false

/-- A backend that gives like requests the same outcome after the same time, and leaves the tagger
alone. The requests that were made of it are `seen`. -/
structure Impartial (backend : Backend τ κ β) (seen : β → List SuggestTagsRequest) : Prop where
  apart : ∀ scope request room, (backend scope request room).2.tagger = room.tagger
  records : ∀ scope request room,
    seen (backend scope request room).2.partner = seen room.partner ++ [request]
  outcome : ∀ request {scope room scope' room'}, Alike scope room scope' room' →
    (backend scope request room).1 = (backend scope' request room').1
  delay : ∀ request {scope room scope' room'}, Alike scope room scope' room' →
    (backend scope request room).2.world.time.now = (backend scope' request room').2.world.time.now

/-- Whoever is told about finished jobs leaves the tagger alone, and asks the backend for nothing. -/
structure Passive (notice : Notice τ κ β) (seen : β → List SuggestTagsRequest) : Prop where
  apart : ∀ callback job room, (notice callback job room).2.tagger = room.tagger
  seen : ∀ callback job room, seen (notice callback job room).2.partner = seen room.partner

/-- A tagger that takes jobs and has none to do. -/
structure Ready (room : Room τ κ β) : Prop where
  enabled : room.tagger.config.enabled = true
  jobsEnabled : room.tagger.config.jobsEnabled = true
  running : room.tagger.stopped = false
  idle : room.tagger.board.queue = []
  /-- Only stopping ends the scope of all jobs. -/
  standing : room.world.time.isCancelled room.tagger.root = false
  endless : room.world.time.scopes.deadline room.tagger.root = none

/-- A new tagger is ready, if it takes jobs at all. -/
theorem ready_enter {config : TaggingConfig τ} {world : World τ} {partner : β}
    (enabled : config.enabled = true) (jobsEnabled : config.jobsEnabled = true) :
    Ready (enter config world partner : Room τ κ β) := by
  refine ⟨enabled, jobsEnabled, rfl, rfl, ?_, ?_⟩
  · change (world.time.scopes.insert _ none none).2.isCancelled _ = false
    exact Forest.isCancelled_insert.trans (if_pos rfl)
  · change (world.time.scopes.insert _ none none).2.deadline _ = none
    exact Forest.deadline_insert.trans (if_pos rfl)

/-- A scope that is not over and leaves a request the longest time it may take. -/
structure Lasting (scope : ScopeId) (room : Room τ κ β) : Prop where
  standing : room.world.time.isCancelled scope = false
  late : ∀ deadline, room.world.time.scopes.deadline scope = some deadline →
    ¬ deadline < room.world.time.now + TimeScale.ofInt requestTimeout

/-! ### Counting and looking up -/

variable {room room' : Room τ κ β} {scope scope' : ScopeId} {user memo : Int} {content : String}
  {existing : List String} {backend : Backend τ κ β} {notice : Notice τ κ β}
  {seen : β → List SuggestTagsRequest}

/-- Has a user a request left? -/
def admits (user : Int) (room : Room τ κ β) : Bool :=
  (room.tagger.quota.grant room.tagger.config.quotaLimit room.tagger.config.quotaWindow
    room.world.time.now user).1

/-- The room once a request of a user was counted, or refused. -/
def counted (user : Int) (room : Room τ κ β) : Room τ κ β :=
  { room with tagger := { room.tagger with
    quota := (room.tagger.quota.grant room.tagger.config.quotaLimit room.tagger.config.quotaWindow
      room.world.time.now user).2 } }

/-- What the cache holds. -/
def recalled (content : String) (existing : List String) (room : Room τ κ β) : Option (List String) :=
  room.tagger.cache.lookUp room.tagger.config.cacheSpan room.world.time.now
    (cacheKey content existing)

theorem grant_eq (user : Int) (room : Room τ κ β) : grant user room =
    (if admits user room then .ok () else .error (.of .quotaExceeded), counted user room) :=
  grantAt_eq room.world.time.now user

omit [TimeScale τ] in
private theorem requireEnabled_ok (enabled : room.tagger.config.enabled = true) :
    requireEnabled room = (.ok (), room) := by
  change require room.tagger.config.enabled disabled room = _
  rw [enabled]
  rfl

theorem suggest_refused (enabled : room.tagger.config.enabled = true)
    (spent : admits user room = false) :
    suggest backend scope user content existing room =
      (.error (.of .quotaExceeded), counted user room) := by
  have metered := grant_eq user room
  rw [spent] at metered
  rw [suggest, Act.bind_ok (requireEnabled_ok enabled)]
  exact Act.bind_error metered

theorem suggest_admitted (enabled : room.tagger.config.enabled = true)
    (admitted : admits user room = true) :
    suggest backend scope user content existing room =
      (match recalled content existing room with
        | some tags => pure { tags }
        | none => consult backend scope user content existing :
          Work τ κ β SuggestTagsResponse) (counted user room) := by
  have metered := grant_eq user room
  rw [admitted] at metered
  have looked : cached content existing (counted user room) =
      (.ok (recalled content existing room), counted user room) := rfl
  rw [suggest, Act.bind_ok (requireEnabled_ok enabled), Act.bind_ok metered, Act.bind_ok looked]
  cases recalled content existing room <;> rfl

private theorem newJob_wide (user : Int) (content : String) (existing : List String)
    (room : Room τ κ β) (wide : isWide memo = true) : ∃ id created entropy,
      newJob user memo content existing room =
        (.ok { id, memo, content, existing, user, created },
          { room with world := { room.world with entropy } }) := by
  unfold newJob newJobId
  rw [wide]
  exact ⟨_, _, _, rfl⟩

/-- The room once a job was handed in for a user, with no other to wait for. -/
def handed (user : Int) (job : TagJob) (entropy : Entropy) (room : Room τ κ β) : Room τ κ β :=
  { world := { room.world with entropy }
    tagger := { (counted user room).tagger with
      board := { room.tagger.board.record job with queue := [job.id] } }
    partner := room.partner }

/-- What becomes of a request for a job. -/
inductive Submitted (user memo : Int) (content : String) (existing : List String)
    (room : Room τ κ β) : Except Fault TagJob × Room τ κ β → Prop where
  | refused (spent : admits user room = false) :
      Submitted user memo content existing room
        (.error (.of .quotaExceeded), counted user room)
  | served {tags id created entropy} (admitted : admits user room = true)
      (found : recalled content existing room = some tags) :
      Submitted user memo content existing room
        (.ok (TagJob.finished (.ok { tags }) created
          { id, memo, content, existing, user, created }),
        { counted user room with world := { room.world with entropy } })
  | queued {job : TagJob} {id created entropy} (admitted : admits user room = true)
      (absent : recalled content existing room = none)
      (fresh : job = { id, memo, content, existing, user, created }) :
      Submitted user memo content existing room
        (.ok job, handed user job entropy room)

omit [TimeScale τ] in
private theorem handIn_eq (room : Room τ κ β) (running : room.tagger.stopped = false)
    (idle : room.tagger.board.queue = []) (job : TagJob) : handIn job room =
      (.ok job, { room with tagger := { room.tagger with
        board := { room.tagger.board.record job with queue := [job.id] } } }) := by
  have open_ : requireRunning room = (.ok (), room) := by
    rw [requireRunning_eq, running]
    rfl
  have recorded : record job room = (.ok (), { room with
      tagger := { room.tagger with board := room.tagger.board.record job } }) := rfl
  rw [handIn, Act.bind_ok open_, Act.bind_ok recorded, queueUp]
  -- An empty queue is never full.
  have free : JobBoard.isFull room.tagger.config.queueLimit (room.tagger.board.record job) = false := by
    rw [JobBoard.isFull, JobBoard.queue_record, idle]
    simp
  have offered : offer job.id { room with
      tagger := { room.tagger with board := room.tagger.board.record job } } = _ := offer_eq job.id
  rw [if_neg (Bool.eq_false_iff.mp free)] at offered
  rw [Act.bind_ok offered, if_pos rfl, JobBoard.enqueue, JobBoard.queue_record, idle]
  rfl

private theorem submitted_submit (ready : Ready room) (wide : isWide memo = true) :
    Submitted user memo content existing room (submit user memo content existing room) := by
  have entered : requireOpen room = (.ok (), room) := by
    rw [requireOpen_eq, TaggingConfig.takesJobs, ready.jobsEnabled, ready.enabled, ready.running]
    rfl
  have metered := grant_eq user room
  rw [submit, Act.bind_ok entered]
  cases admitted : admits user room with
  | false =>
    rw [admitted] at metered
    rw [Act.bind_error metered]
    exact .refused admitted
  | true =>
    rw [admitted] at metered
    have looked : cached content existing (counted user room) =
        (.ok (recalled content existing room), counted user room) := rfl
    obtain ⟨id, created, entropy, named⟩ :=
      newJob_wide user content existing (counted user room) wide
    rw [Act.bind_ok metered, Act.bind_ok looked, Act.bind_ok named]
    cases found : recalled content existing room with
    | some tags => exact .served admitted found
    | none =>
      have queued := handIn_eq { counted user room with
        world := { (counted user room).world with entropy } } ready.running ready.idle
          { id, memo, content, existing, user, created }
      change Submitted user memo content existing room (handIn _ _)
      rw [queued]
      exact .queued admitted found rfl

/-! ### Asking the backend -/

/-- The scope that a request to the backend gets within another. -/
theorem opened_standing (standing : room.world.time.isCancelled scope = false) :
    (openInner scope room).2.world.time.isCancelled room.world.time.scopes.length = false := by
  change (room.world.time.scopes.insert _ _ (some scope)).2.isCancelled _ = false
  rw [Forest.isCancelled_insert, if_pos rfl]
  exact standing

private theorem opened_deadline (lasting : Lasting scope room) :
    (openInner scope room).2.world.time.scopes.deadline room.world.time.scopes.length =
      some (room.world.time.now + TimeScale.ofInt requestTimeout) := by
  change (room.world.time.scopes.insert _ _ (some scope)).2.deadline _ = _
  rw [Forest.deadline_insert, if_pos rfl]
  change Forest.tighter (some _) (room.world.time.scopes.deadline scope) = _
  cases limit : room.world.time.scopes.deadline scope with
  | none => rfl
  | some deadline =>
    have late := lasting.late deadline limit
    exact congrArg some (if_neg late)

/-- Whoever asks within lasting scopes, in rooms that differ in what no backend sees, asks alike. -/
theorem alike_opened (lasting : Lasting scope room) (lasting' : Lasting scope' room')
    (time : room.world.time = room'.world.time) (client : room.world.client = room'.world.client)
    (sent : room.world.sent = room'.world.sent) (partner : room.partner = room'.partner) :
    Alike room.world.time.scopes.length (openInner scope room).2
      room'.world.time.scopes.length (openInner scope' room').2 where
  now := by
    change room.world.time.now = room'.world.time.now
    rw [time]
  client := client
  sent := sent
  partner := partner
  deadline := by rw [opened_deadline lasting, opened_deadline lasting', time]
  standing := opened_standing lasting.standing
  standing' := opened_standing lasting'.standing

theorem Ready.lasting (ready : Ready room) : Lasting room.tagger.root room := by
  refine ⟨ready.standing, ?_⟩
  intro deadline limited
  rw [ready.endless] at limited
  cases limited

theorem ask_tagger (impartial : Impartial backend seen) (scope : ScopeId) (content : String)
    (existing : List String) (room : Room τ κ β) :
    (ask backend scope content existing room).2.tagger = room.tagger := impartial.apart ..

private theorem ask_seen (impartial : Impartial backend seen) (scope : ScopeId) (content : String)
    (existing : List String) (room : Room τ κ β) :
    seen (ask backend scope content existing room).2.partner =
      seen room.partner ++ [request room.tagger.config content existing] := impartial.records ..

/-- The room in which the outcome of a request is dealt with: a result is in the cache. -/
def filed (content : String) (existing : List String)
    (answer : Except Fault SuggestTagsResponse × Room τ κ β) : Room τ κ β :=
  match answer.1 with
  | .ok response => (keep content existing response.tags answer.2).2
  | .error _ => answer.2

private theorem filed_partner (answer : Except Fault SuggestTagsResponse × Room τ κ β) :
    (filed content existing answer).partner = answer.2.partner := by
  obtain ⟨outcome, after⟩ := answer
  cases outcome <;> rfl

private theorem filed_quota (answer : Except Fault SuggestTagsResponse × Room τ κ β) :
    (filed content existing answer).tagger.quota = answer.2.tagger.quota := by
  obtain ⟨outcome, after⟩ := answer
  cases outcome <;> rfl

private theorem filed_board (content : String) (existing : List String)
    (answer : Except Fault SuggestTagsResponse × Room τ κ β) :
    (filed content existing answer).tagger.board = answer.2.tagger.board := by
  obtain ⟨outcome, after⟩ := answer
  cases outcome <;> rfl

/-- The cache is the same after the same outcome at the same moment. -/
theorem filed_cache {answer answer' : Except Fault SuggestTagsResponse × Room τ κ β}
    (outcome : answer.1 = answer'.1) (now : answer.2.world.time.now = answer'.2.world.time.now)
    (config : answer.2.tagger.config = answer'.2.tagger.config)
    (cache : answer.2.tagger.cache = answer'.2.tagger.cache) :
    (filed content existing answer).tagger.cache = (filed content existing answer').tagger.cache := by
  obtain ⟨result, after⟩ := answer
  obtain ⟨result', after'⟩ := answer'
  cases outcome
  cases result with
  | error f => exact cache
  | ok response =>
    change TagCache.insert after.tagger.config.cacheCapacity after.tagger.config.cacheSpan
      after.world.time.now _ _ after.tagger.cache = _
    rw [now, config, cache]
    rfl

theorem consult_outcome :
    (consult backend scope user content existing room).1 =
      (ask backend scope content existing room).1 := by
  rw [consult]
  cases outcome : (ask backend scope content existing room).1 with
  | error f => rw [Act.bind_error (Prod.ext outcome rfl)]
  | ok response =>
    rw [Act.bind_ok (Prod.ext outcome rfl)]
    rfl

/-- What is reported of a result concerns the world alone. -/
theorem consult_room (backend : Backend τ κ β) (scope : ScopeId) (user : Int) (content : String)
    (existing : List String) (room : Room τ κ β) :
    (consult backend scope user content existing room).2.tagger =
        (filed content existing (ask backend scope content existing room)).tagger ∧
      (consult backend scope user content existing room).2.partner =
        (ask backend scope content existing room).2.partner := by
  rw [consult, filed]
  cases outcome : (ask backend scope content existing room).1 with
  | error f =>
    rw [Act.bind_error (Prod.ext outcome rfl)]
    exact ⟨rfl, rfl⟩
  | ok response =>
    rw [Act.bind_ok (Prod.ext outcome rfl)]
    exact ⟨rfl, rfl⟩

/-! ### One turn of a worker -/

private theorem work_idle (backend : Backend τ κ β) (notice : Notice τ κ β) (room : Room τ κ β)
    (idle : room.tagger.board.queue = []) :
    work backend notice 1 room = (.ok 0, room) := by
  have open_ : (onTagger fun t => (t.stopped, t) : Work τ κ β Bool) room =
      (.ok room.tagger.stopped, room) := rfl
  have none : next room = (.ok none, room) := by
    rw [next, Act.bind_ok open_]
    cases room.tagger.stopped with
    | true => rfl
    | false =>
      have nobody : takeWaiting room = (.ok none, room) := by
        simp [takeWaiting, onTagger, Act.within, Act.step, JobBoard.dequeue?, idle]
      exact nobody
  rw [work, Act.bind_ok none]
  rfl

private theorem publish_ok {job : TagJob} {outcome : Except Fault SuggestTagsResponse} :
    (publish notice job outcome room).1 = .ok () := by
  have recorded : finishJob job outcome room =
      (.ok (job.finished outcome (Instant.ofReading room.world.time.now), room.tagger.callback),
        (finishJob job outcome room).2) := rfl
  rw [publish, Act.bind_ok recorded]
  cases room.tagger.callback <;> rfl

/-- To publish an outcome changes the record of the job, and nothing else that the tagger keeps. -/
theorem publish_room (passive : Passive notice seen) (job : TagJob)
    (outcome : Except Fault SuggestTagsResponse) (room : Room τ κ β) :
    (publish notice job outcome room).2.tagger = { room.tagger with
        board := (room.tagger.board.finish job outcome
          (Instant.ofReading room.world.time.now)).2 } ∧
      seen (publish notice job outcome room).2.partner = seen room.partner := by
  have recorded : finishJob job outcome room =
      (.ok (job.finished outcome (Instant.ofReading room.world.time.now), room.tagger.callback),
        { room with tagger := { room.tagger with
          board := (room.tagger.board.finish job outcome
            (Instant.ofReading room.world.time.now)).2 } }) := rfl
  rw [publish, Act.bind_ok recorded]
  cases room.tagger.callback with
  | none => exact ⟨rfl, rfl⟩
  | some callback => exact ⟨passive.apart .., passive.seen ..⟩

/-- The room while a worker has begun the only job. -/
def begun (job : TagJob) (room : Room τ κ β) : Room τ κ β :=
  { room with tagger := { room.tagger with
    board := { room.tagger.board.change job.id fun _ => job.atWork with queue := [] } } }

private theorem work_eq {job : TagJob} (backend : Backend τ κ β) (notice : Notice τ κ β)
    (room : Room τ κ β) (running : room.tagger.stopped = false)
    (waiting : room.tagger.board.queue = [job.id])
    (found : room.tagger.board.find? job.id = some job) :
    work backend notice 1 room =
      (.ok 1, (publish notice job.atWork
        (ask backend room.tagger.root job.content job.existing (begun job room)).1
        (filed job.content job.existing
          (ask backend room.tagger.root job.content job.existing (begun job room)))).2) := by
  have taken : next room = (.ok (some job.id), { room with tagger := { room.tagger with
      board := { room.tagger.board with queue := [] } } }) := by
    have open_ : (onTagger fun t => (t.stopped, t) : Work τ κ β Bool) room = (.ok false, room) := by
      rw [← running]
      rfl
    rw [next, Act.bind_ok open_]
    exact takeWaiting_next waiting
  have started : beginJob job.id { room with tagger := { room.tagger with
      board := { room.tagger.board with queue := [] } } } =
        (.ok (some (job.atWork, room.tagger.root)), begun job room) := by
    have here : JobBoard.find? job.id { room.tagger.board with queue := [] } = some job := found
    simp [beginJob, onTagger, Act.within, Act.step, JobBoard.begin?, here, begun, JobBoard.change]
  have worked : process backend notice job.id { room with tagger := { room.tagger with
      board := { room.tagger.board with queue := [] } } } =
        (.ok (), (publish notice job.atWork
          (ask backend room.tagger.root job.content job.existing (begun job room)).1
          (filed job.content job.existing
            (ask backend room.tagger.root job.content job.existing (begun job room)))).2) := by
    rw [process, Act.bind_ok started]
    have tried : Act.attempt (ask backend room.tagger.root job.content job.existing)
        (begun job room) =
          (.ok (ask backend room.tagger.root job.content job.existing (begun job room)).1,
            (ask backend room.tagger.root job.content job.existing (begun job room)).2) := rfl
    refine (Act.bind_ok tried).trans ?_
    rw [filed]
    cases (ask backend room.tagger.root job.content job.existing (begun job room)).1 with
    | error f => exact Prod.ext publish_ok rfl
    | ok response => exact Prod.ext publish_ok rfl
  rw [work, Act.bind_ok taken]
  refine (Act.bind_ok worked).trans ?_
  rfl

/-! ### Agreement -/

/-- What tags at once (`now`), a job (`submitted`) and the turn of a worker after it (`worked`) come
to in the same room. -/
structure Agreement (seen : β → List SuggestTagsRequest) (user : Int) (content : String)
    (existing : List String) (room : Room τ κ β)
    (now : Except Fault SuggestTagsResponse × Room τ κ β)
    (submitted : Except Fault TagJob × Room τ κ β) (worked : Except Fault Nat × Room τ κ β) :
    Prop where
  cache : now.2.tagger.cache = worked.2.tagger.cache
  quota : now.2.tagger.quota = worked.2.tagger.quota
  /-- The backend was asked for the same. -/
  requests : seen now.2.partner = seen worked.2.partner
  /-- Without a request left, both are refused, and nobody is asked. -/
  refused : admits user room = false →
    now.1 = .error (.of .quotaExceeded) ∧ submitted.1 = .error (.of .quotaExceeded) ∧
      worked.1 = .ok 0 ∧ seen now.2.partner = seen room.partner
  /-- What is in the cache is the result of a finished job, and nobody is asked. -/
  served : admits user room = true → ∀ tags, recalled content existing room = some tags →
    now.1 = .ok { tags } ∧ worked.1 = .ok 0 ∧ seen now.2.partner = seen room.partner ∧
      ∃ job moment, submitted.1 = .ok job ∧ job.status = .completed ∧
        job.result = some { tags } ∧ job.fault = none ∧ job.completed = some moment
  /-- What is not in the cache is asked for once, and the job ends as the call does. -/
  answered : admits user room = true → recalled content existing room = none →
    worked.1 = .ok 1 ∧
      seen now.2.partner = seen room.partner ++ [request room.tagger.config content existing] ∧
      ∃ job finished, submitted.1 = .ok job ∧ job.status = .pending ∧
        worked.2.tagger.board.find? job.id = some finished ∧
        (∀ response, now.1 = .ok response → finished.status = .completed ∧
          finished.result = some response ∧ finished.fault = none) ∧
        (∀ f, now.1 = .error f → finished.status = .failed ∧ finished.fault = some f ∧
          finished.result = none)

/-- The record that a worker leaves of a job it was the only one to work on. -/
theorem find?_worked {b : JobBoard} {job : TagJob} {outcome : Except Fault SuggestTagsResponse}
    {moment : Instant} (found : b.find? job.id = some job) :
    (JobBoard.finish job.atWork outcome moment
        { b.change job.id fun _ => job.atWork with queue := [] }).2.find? job.id =
      some (job.atWork.finished outcome moment) := by
  have same : (job.atWork.finished outcome moment).id = job.id := by cases outcome <;> rfl
  have first : (b.change job.id fun _ => job.atWork).find? job.id = _ :=
    JobBoard.find?_change fun _ _ => rfl
  have second : (JobBoard.change job.id (fun _ => job.atWork.finished outcome moment)
      { b.change job.id fun _ => job.atWork with queue := [] }).find? job.id = _ :=
    JobBoard.find?_change fun _ _ => same
  rw [if_pos rfl, found] at first
  rw [if_pos rfl] at second
  exact second.trans (congrArg (Option.map _) first)

/-- What a request that was counted for a user leaves, `answer` being what the backend said. -/
structure Heard (seen : β → List SuggestTagsRequest) (user : Int) (content : String)
    (existing : List String) (room : Room τ κ β)
    (answer : Except Fault SuggestTagsResponse × Room τ κ β) (after : Room τ κ β) : Prop where
  cache : after.tagger.cache = (filed content existing answer).tagger.cache
  quota : after.tagger.quota = (counted user room).tagger.quota
  requests : seen after.partner =
    seen room.partner ++ [request room.tagger.config content existing]

private theorem heard_consult (impartial : Impartial backend seen) (scope : ScopeId) (user : Int)
    (content : String) (existing : List String) (room : Room τ κ β) :
    Heard seen user content existing room (ask backend scope content existing (counted user room))
      (consult backend scope user content existing (counted user room)).2 := by
  have apart := ask_tagger impartial scope content existing (counted user room)
  have asked := ask_seen impartial scope content existing (counted user room)
  obtain ⟨tagger, partner⟩ := consult_room backend scope user content existing (counted user room)
  refine ⟨congrArg Tagger.cache tagger, ?_, ?_⟩
  · rw [tagger, filed_quota, apart]
  · rw [partner, asked]
    rfl

/-- The turn of a worker at a job, `answer` being what the backend said. -/
structure Turn (seen : β → List SuggestTagsRequest) (user : Int) (job : TagJob) (room : Room τ κ β)
    (answer : Except Fault SuggestTagsResponse × Room τ κ β)
    (worked : Except Fault Nat × Room τ κ β) : Prop where
  one : worked.1 = .ok 1
  heard : Heard seen user job.content job.existing room answer worked.2
  record : ∃ moment, worked.2.tagger.board.find? job.id =
    some (job.atWork.finished answer.1 moment)

private theorem turn_handed (ready : Ready room) (impartial : Impartial backend seen)
    (passive : Passive notice seen) (user : Int) (job : TagJob) (entropy : Entropy) :
    Turn seen user job room
      (ask backend room.tagger.root job.content job.existing (begun job (handed user job entropy room)))
      (work backend notice 1 (handed user job entropy room)) := by
  have found : (handed user job entropy room).tagger.board.find? job.id = some job :=
    JobBoard.find?_record.trans (if_pos rfl)
  have did := work_eq backend notice (handed user job entropy room) ready.running rfl found
  rw [did]
  -- The backend leaves the tagger as it was when the job was begun.
  have apart := ask_tagger impartial room.tagger.root job.content job.existing
    (begun job (handed user job entropy room))
  have asked := ask_seen impartial room.tagger.root job.content job.existing
    (begun job (handed user job entropy room))
  change Turn seen user job room (ask backend room.tagger.root _ _ _)
    (_, (publish notice _ (ask backend room.tagger.root _ _ _).1
      (filed _ _ (ask backend room.tagger.root _ _ _))).2)
  generalize ask backend room.tagger.root job.content job.existing
    (begun job (handed user job entropy room)) = answer at apart asked ⊢
  obtain ⟨published, told⟩ :=
    publish_room passive job.atWork answer.1 (filed job.content job.existing answer)
  have cache := congrArg Tagger.cache published
  have quota := congrArg Tagger.quota published
  have untouched := congrArg Tagger.quota apart
  have board := (filed_board job.content job.existing answer).trans (congrArg Tagger.board apart)
  refine ⟨rfl, ⟨cache, quota.trans ((filed_quota answer).trans untouched), ?_⟩,
    Instant.ofReading (filed job.content job.existing answer).world.time.now, ?_⟩
  · rw [told, filed_partner, asked]
    rfl
  · rw [published, board]
    exact find?_worked found

/-- Asked at once or for a job, the backend says the same, and the same is in the cache then. -/
theorem ask_alike (ready : Ready room) (lasting : Lasting scope room)
    (impartial : Impartial backend seen) (user : Int) (content : String) (existing : List String)
    (job : TagJob) (entropy : Entropy) :
    (ask backend scope content existing (counted user room)).1 =
        (ask backend room.tagger.root content existing (begun job (handed user job entropy room))).1 ∧
      (filed content existing (ask backend scope content existing (counted user room))).tagger.cache =
        (filed content existing (ask backend room.tagger.root content existing
          (begun job (handed user job entropy room)))).tagger.cache := by
  have within : Lasting scope (counted user room) := ⟨lasting.standing, lasting.late⟩
  have within' : Lasting room.tagger.root (begun job (handed user job entropy room)) :=
    ⟨ready.lasting.standing, ready.lasting.late⟩
  have alike := alike_opened within within' rfl rfl rfl rfl
  have outcome := impartial.outcome (request room.tagger.config content existing) alike
  have moment := impartial.delay (request room.tagger.config content existing) alike
  have apart := ask_tagger impartial scope content existing (counted user room)
  have apart' := ask_tagger impartial room.tagger.root content existing
    (begun job (handed user job entropy room))
  refine ⟨outcome, filed_cache outcome moment ?_ ?_⟩
  · rw [apart, apart']
    rfl
  · rw [apart, apart']
    rfl

/-- Tags at once, wanted within a scope that lasts, and a job that a worker then takes its turn at
agree, whatever the backend answers. -/
theorem agreement (ready : Ready room) (lasting : Lasting scope room) (wide : isWide memo = true)
    (impartial : Impartial backend seen) (passive : Passive notice seen) :
    Agreement seen user content existing room
      (suggest backend scope user content existing room)
      (submit user memo content existing room)
      (work backend notice 1 (submit user memo content existing room).2) := by
  have submitted : Submitted user memo content existing room _ := submitted_submit ready wide
  generalize submit user memo content existing room = result at submitted ⊢
  cases submitted with
  | refused spent =>
    have idle := work_idle backend notice (counted user room) ready.idle
    rw [suggest_refused ready.enabled spent, idle]
    exact ⟨rfl, rfl, rfl, fun _ => ⟨rfl, rfl, rfl, rfl⟩, by simp [spent], by simp [spent]⟩
  | @served tags id created entropy admitted found =>
    have idle := work_idle backend notice
      { counted user room with world := { room.world with entropy } } ready.idle
    rw [suggest_admitted ready.enabled admitted, found, idle]
    refine ⟨rfl, rfl, rfl, by simp [admitted], ?_, by simp [found]⟩
    intro _ others same
    rw [found] at same
    cases same
    exact ⟨rfl, rfl, rfl, _, created, rfl, rfl, rfl, rfl, rfl⟩
  | @queued job id created entropy admitted absent fresh =>
    obtain ⟨rfl, rfl, pending, blank, blank'⟩ : job.content = content ∧ job.existing = existing ∧
        job.status = .pending ∧ job.result = none ∧ job.fault = none := by
      rw [fresh]
      exact ⟨rfl, rfl, rfl, rfl, rfl⟩
    obtain ⟨one, worked, moment, record⟩ := turn_handed ready impartial passive user job entropy
    have heard := heard_consult impartial scope user job.content job.existing room
    obtain ⟨outcome, cache⟩ :=
      ask_alike ready lasting impartial user job.content job.existing job entropy
    have answered : (consult backend scope user job.content job.existing (counted user room)).1 =
        (ask backend room.tagger.root job.content job.existing
          (begun job (handed user job entropy room))).1 := consult_outcome.trans outcome
    rw [suggest_admitted ready.enabled admitted, absent]
    refine ⟨heard.cache.trans (cache.trans worked.cache.symm), heard.quota.trans worked.quota.symm,
      heard.requests.trans worked.requests.symm, by simp [admitted], by simp [absent], ?_⟩
    intro _ _
    refine ⟨one, heard.requests, job, _, rfl, pending, record, ?_, ?_⟩
    · intro response came
      rw [answered.symm.trans came]
      exact ⟨rfl, rfl, blank'⟩
    · intro f came
      rw [answered.symm.trans came]
      exact ⟨rfl, rfl, blank⟩

/-- A memo that nobody asked about, in a new room: the tags are asked for once by either way. -/
theorem agreement_of_new_memo :
    let room : Room Int Unit (List SuggestTagsRequest) :=
      (openInner 0 (enter .usual (World.start (Client.ofReplies [])) [])).2
    let backend : Backend Int Unit (List SuggestTagsRequest) := fun _ request room =>
      (.ok { tags := ["lean"] }, { room with partner := room.partner ++ [request] })
    let notice : Notice Int Unit (List SuggestTagsRequest) := fun _ _ => pure ()
    admits 7 room = true ∧ recalled "a memo" [] room = none ∧
      Agreement id 7 "a memo" [] room (suggest backend 1 7 "a memo" [] room)
        (submit 7 3 "a memo" [] room) (work backend notice 1 (submit 7 3 "a memo" [] room).2) := by
  intro room backend notice
  have new : Ready (enter .usual (World.start (Client.ofReplies [])) [] :
    Room Int Unit (List SuggestTagsRequest)) := ready_enter rfl rfl
  have ready : Ready room := ⟨new.enabled, new.jobsEnabled, rfl, rfl, rfl, rfl⟩
  have lasting : Lasting 1 room := by
    refine ⟨rfl, ?_⟩
    intro deadline limited
    obtain rfl : (30000000 : Int) = deadline := Option.some.inj limited
    decide
  have impartial : Impartial backend id :=
    { apart := fun _ _ _ => rfl
      records := fun _ _ _ => rfl
      outcome := fun _ {_ _ _ _} _ => rfl
      delay := fun _ {_ _ _ _} alike => alike.now }
  have passive : Passive notice id := ⟨fun _ _ _ => rfl, fun _ _ _ => rfl⟩
  exact ⟨rfl, rfl, agreement ready lasting (by decide) impartial passive⟩

end MemoAssist.Tagging

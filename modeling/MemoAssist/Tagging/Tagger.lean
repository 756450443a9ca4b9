import MemoAssist.Tagging.Cache
import MemoAssist.Tagging.Config
import MemoAssist.Tagging.Jobs
import MemoAssist.Tagging.Quota
import MemoAssist.World

/-! The tagger: suggestions of tags, at once or as a job, under a cache and a quota. Who answers its
requests and who is told about finished jobs are its partners; they share the room with it, so that
they may call it while it waits for them. -/
namespace MemoAssist

variable {τ κ β : Type} [TimeScale τ]

structure Tagger (τ κ : Type) where
  config : TaggingConfig τ
  /-- The scope of all jobs; it is cancelled when the work stops. -/
  root : ScopeId
  cache : TagCache τ := []
  quota : QuotaTable τ := []
  board : JobBoard := {}
  /-- Who is told about finished jobs. -/
  callback : Option κ := none
  stopped : Bool := false

/-- The world, the tagger, and what the partners know. -/
structure Room (τ κ β : Type) where
  world : World τ
  tagger : Tagger τ κ
  partner : β

namespace Room

abbrev Work (τ κ β α : Type) := Act (Room τ κ β) α

def onWorld {α : Type} (work : Act (World τ) α) : Work τ κ β α :=
  Act.within Room.world (fun world room => { room with world }) work

def onTagger {α : Type} (f : Tagger τ κ → α × Tagger τ κ) : Work τ κ β α :=
  Act.within Room.tagger (fun tagger room => { room with tagger }) (Act.step f)

def config : Work τ κ β (TaggingConfig τ) := fun room => (.ok room.tagger.config, room)

def now : Work τ κ β τ := fun room => (.ok room.world.time.now, room)

end Room

namespace Tagging

open Room

/-- Who answers a request, within a scope. -/
abbrev Backend (τ κ β : Type) := ScopeId → SuggestTagsRequest → Work τ κ β SuggestTagsResponse

/-- How somebody is told about a finished job. -/
abbrev Notice (τ κ β : Type) := κ → TagJob → Work τ κ β Unit

def disabled : Fault := ⟨.disabled, "tag suggestions are disabled"⟩

def jobsDisabled : Fault := ⟨.disabled, "async tag generation is disabled"⟩

def stopped : Fault := ⟨.disabled, "tag service stopped"⟩

def require (condition : Bool) (fault : Fault) : Work τ κ β Unit :=
  if condition then pure () else Act.fail fault

/-- A tagger in a world, with a scope of its own. -/
def enter (config : TaggingConfig τ) (world : World τ) (partner : β) : Room τ κ β :=
  let (root, time) := world.time.openScope none none
  { world := { world with time }, tagger := { config, root }, partner }

/-- Count a request of a user at a reading of the clock. -/
def grantAt (now : τ) (user : Int) : Work τ κ β Unit := do
  let admitted ← onTagger fun t =>
    let (admitted, quota) := t.quota.grant t.config.quotaLimit t.config.quotaWindow now user
    (admitted, { t with quota })
  require admitted (.of .quotaExceeded)

def grant (user : Int) : Work τ κ β Unit := do grantAt (← now) user

def cached (content : String) (existing : List String) : Work τ κ β (Option (List String)) := do
  let now ← now
  onTagger fun t => (t.cache.lookUp t.config.cacheSpan now (cacheKey content existing), t)

def keep (content : String) (existing tags : List String) : Work τ κ β Unit := do
  let now ← now
  onTagger fun t =>
    let key := cacheKey content existing
    ((), { t with
      cache := t.cache.insert t.config.cacheCapacity t.config.cacheSpan now key tags })

def request (config : TaggingConfig τ) (content : String) (existing : List String) :
    SuggestTagsRequest :=
  { content, existingTags := existing, maxTags := config.maxTags }

/-- A scope that ends after the longest time for a request. -/
def openInner (scope : ScopeId) : Work τ κ β ScopeId :=
  onWorld (World.openScope (some (TimeScale.ofInt requestTimeout)) (some scope))

/-- Ask the backend, within a scope of its own. -/
def ask (backend : Backend τ κ β) (scope : ScopeId) (content : String) (existing : List String) :
    Work τ κ β SuggestTagsResponse := do
  let config ← config
  let inner ← openInner scope
  backend inner (request config content existing)

def requireEnabled : Work τ κ β Unit := do require (← config).enabled disabled

def reportTags (user : Int) (response : SuggestTagsResponse) : Work τ κ β Unit :=
  onWorld (World.report (.tagsGenerated user response.tags.length))

/-- Suggest tags now. What is in the cache needs no request; what is not is kept there. -/
def suggest (backend : Backend τ κ β) (scope : ScopeId) (user : Int) (content : String)
    (existing : List String) : Work τ κ β SuggestTagsResponse := do
  requireEnabled
  grant user
  match ← cached content existing with
  | some tags => pure { tags }
  | none =>
    let response ← ask backend scope content existing
    keep content existing response.tags
    reportTags user response
    pure response

/-- A fresh id for a job. -/
def newJobId (memo : Int) (content : String) : Work τ κ β String := do
  require (isWide memo) (.of .outOfRange)
  let nanos := Instant.nanosOfReading (← now)
  let salt ← onWorld (World.draw saltSize)
  pure (jobKey memo content nanos salt)

def newJob (user memo : Int) (content : String) (existing : List String) : Work τ κ β TagJob := do
  let id ← newJobId memo content
  pure { id, memo, content, existing, user, created := Instant.ofReading (← now) }

def requireRunning : Work τ κ β Unit := do
  require (! (← onTagger fun t => (t.stopped, t))) stopped

/-- May jobs be handed in? -/
def requireOpen : Work τ κ β Unit := do
  require (← config).takesJobs jobsDisabled
  requireRunning

def record (job : TagJob) : Work τ κ β Unit :=
  onTagger fun t => ((), { t with board := t.board.record job })

/-- Let a recorded job wait, unless the queue is full. -/
def offer (id : String) : Work τ κ β Bool :=
  onTagger fun t =>
    if t.board.isFull t.config.queueLimit then (false, t)
    else (true, { t with board := t.board.enqueue id })

def withdraw (id : String) : Work τ κ β Unit :=
  onTagger fun t => ((), { t with board := t.board.withdraw id })

/-- Suggest tags later. What is in the cache makes a finished job that nobody keeps a record of. The
work may have stopped since the call came in, so that is looked at once more. -/
def submit (user memo : Int) (content : String) (existing : List String) :
    Work τ κ β TagJob := do
  requireOpen
  grant user
  let tags ← cached content existing
  let job ← newJob user memo content existing
  match tags with
  | some tags => pure (job.finished (.ok { tags }) job.created)
  | none =>
    requireRunning
    record job
    if ← offer job.id then pure job
    else
      withdraw job.id
      Act.fail (.of .queueFull)

/-- Begin a job: the job as it is then recorded, and the scope of all jobs. -/
def beginJob (id : String) : Work τ κ β (Option (TagJob × ScopeId)) :=
  onTagger fun t =>
    match t.board.begin? id with
    | none => (none, t)
    | some (job, board) => (some (job, t.root), { t with board })

/-- Record the outcome of a job: the job as it then is, and who is to be told about it. -/
def finishJob (job : TagJob) (outcome : Except Fault SuggestTagsResponse) :
    Work τ κ β (TagJob × Option κ) := do
  let moment := Instant.ofReading (← now)
  onTagger fun t =>
    let (finished, board) := t.board.finish job outcome moment
    ((finished, t.callback), { t with board })

/-- Publish the outcome of a job, and tell about it whoever is to be told by then. -/
def publish (notice : Notice τ κ β) (job : TagJob)
    (outcome : Except Fault SuggestTagsResponse) : Work τ κ β Unit := do
  match ← finishJob job outcome with
  | (_, none) => pure ()
  | (finished, some callback) =>
    let _ ← Act.attempt (notice callback finished)
    pure ()

/-- Work on one job. A result is in the cache before the job is seen to be finished. -/
def process (backend : Backend τ κ β) (notice : Notice τ κ β) (id : String) : Work τ κ β Unit := do
  match ← beginJob id with
  | none => pure ()
  | some (job, root) =>
    let outcome ← Act.attempt (ask backend root job.content job.existing)
    match outcome with
    | .ok response => keep job.content job.existing response.tags
    | .error _ => pure ()
    publish notice job outcome

/-- The id that has waited longest waits no more. -/
def takeWaiting : Work τ κ β (Option String) :=
  onTagger fun t =>
    match t.board.dequeue? with
    | none => (none, t)
    | some (id, board) => (some id, { t with board })

/-- The next job, unless the work has stopped. -/
def next : Work τ κ β (Option String) := do
  if ← onTagger fun t => (t.stopped, t) then pure none else takeWaiting

/-- Work on up to `limit` jobs: how many were there? -/
def work (backend : Backend τ κ β) (notice : Notice τ κ β) : (limit : Nat) → Work τ κ β Nat
  | 0 => pure 0
  | limit + 1 => do
    match ← next with
    | none => pure 0
    | some id =>
      process backend notice id
      return (← work backend notice limit) + 1

/-- From here on the work is stopped: was it before? -/
def close : Work τ κ β Bool := onTagger fun t => (t.stopped, { t with stopped := true })

/-- Cancel the scope of all jobs, and with it those of the requests under way. -/
def cancelJobs : Work τ κ β Unit := do
  onWorld (World.cancel (← onTagger fun t => (t.root, t)))

/-- Fail a job that nobody will work on, if it still waits. -/
def abandonJob (id : String) : Work τ κ β Unit := do
  let moment := Instant.ofReading (← now)
  onTagger fun t => ((), { t with board := t.board.change id (JobBoard.abandon moment) })

def reportStop : Work τ κ β Unit := onWorld (World.report .taggingStopped)

/-- Fail all jobs that still wait. -/
def drain : Work τ κ β Unit := do
  let moment := Instant.ofReading (← now)
  onTagger fun t => ((), { t with board := t.board.drain moment })

/-- Stop for good. Requests of jobs are cancelled, and jobs that still wait fail. -/
def stop : Work τ κ β Unit := do
  if ← close then pure ()
  else
    cancelJobs
    drain
    reportStop

def setCallback (callback : Option κ) : Work τ κ β Unit :=
  onTagger fun t => ((), { t with callback })

def job? (id : String) : Work τ κ β (Option TagJob) := onTagger fun t => (t.board.find? id, t)

def jobs : Work τ κ β (List TagJob) := onTagger fun t => (t.board.jobs, t)

/-- Forget the jobs finished before a moment: how many were there? -/
def expireBefore (cutoff : Instant) : Work τ κ β Nat :=
  onTagger fun t =>
    let (count, board) := t.board.expire cutoff
    (count, { t with board })

/-- Forget the jobs finished longer ago than a span: how many were there? -/
def cleanUp (age : τ) : Work τ κ β Nat := do
  expireBefore (← Act.ofExcept ((Instant.ofReading (← now)).after (-TimeScale.micros age)))

def clearCache : Work τ κ β Unit := onTagger fun t => ((), { t with cache := [] })

/-- The number of entries, out of date or not, and the capacity. -/
def cacheStats : Work τ κ β (Nat × Int) :=
  onTagger fun t => ((t.cache.length, t.config.cacheCapacity), t)

/-- The requests a user has left, and when the window ends. No request is counted for it. -/
def quotaStatus (user : Int) : Work τ κ β (Int × Instant) := do
  let now ← now
  let (left, span) ← onTagger fun t =>
    (t.quota.status t.config.quotaLimit t.config.quotaWindow now user, t)
  let reset ← Act.ofExcept ((Instant.ofReading now).after (TimeScale.micros span))
  pure (left, reset)

end Tagging

end MemoAssist

import MemoAssist.Tagging.Tagger
import Mathlib.Logic.Function.Basic
import Mathlib.Logic.Relation

/-! The office: the tagger among any number of clients and workers who come to it at the same time.
Everyone goes through the operations of the tagger in small steps, one for each visit to what is
shared, and the steps of all interleave in any order. Visits under one of the tagger's inner locks
are single steps; the lock at the door, under which jobs are handed in and the work is stopped, is
held over several and so is modelled. A log records what happened. -/
namespace MemoAssist

variable {τ κ β : Type} [TimeScale τ]

/-- Are tags wanted at once, within a scope, or as a job for a memo? -/
inductive Purpose where
  | now (scope : ScopeId)
  | later (memo : Int)
deriving DecidableEq

/-- What a client asks for. -/
structure Demand where
  user : Int
  content : String
  existing : List String
  purpose : Purpose
deriving DecidableEq

inductive Answer where
  | tags (response : SuggestTagsResponse)
  | job (job : TagJob)

/-- How far a client has come with a demand. -/
inductive CallStage (τ : Type) where
  | entering
  | metering
  /-- The clock was read for the quota. -/
  | metered (now : τ)
  | recalling
  /-- The cache held these tags. -/
  | found (tags : List String)
  /-- The cache held nothing. -/
  | missing
  /-- From here on with a new job, which waits for the lock at the door first. -/
  | ready (job : TagJob)
  | rechecking (job : TagJob)
  | recording (job : TagJob)
  | offering (job : TagJob)
  | withdrawing (job : TagJob)
  | leaving (outcome : Except Fault TagJob)
  /-- From here on with a request to the backend. -/
  | scoped (inner : ScopeId)
  | awaiting
  | keeping (response : SuggestTagsResponse)
  | telling (response : SuggestTagsResponse)

/-- How far a client has come with stopping the work. -/
inductive StopStage where
  | arriving
  | closing
  /-- Was it this client who closed? -/
  | unlocking (closed : Bool)
  | signalling
  | cancelling
  /-- The workers with a lower number have left. -/
  | joining (next : Nat)
  | draining
  | failing (id : String)
  | reporting

inductive Errand (τ : Type) where
  | idle
  | call (demand : Demand) (stage : CallStage τ)
  | stop (stage : StopStage)

/-- How far a worker has come. -/
inductive Shift (κ : Type) where
  | gone
  | looking
  | fetching
  | holding (id : String)
  | started (job : TagJob) (root : ScopeId)
  | scoped (job : TagJob) (inner : ScopeId)
  | awaiting (job : TagJob) (inner : ScopeId)
  | caching (job : TagJob) (response : SuggestTagsResponse)
  | publishing (job : TagJob) (outcome : Except Fault SuggestTagsResponse)
  | telling (callback : Option κ) (finished : TagJob)

/-- On whose behalf the backend is asked. -/
inductive Asker where
  | client (c : Nat)
  | worker (w : Nat) (job : String)
deriving DecidableEq

/-- An entry of the log. -/
inductive Happening (τ κ : Type) where
  | called (c : Nat) (demand : Demand)
  | returned (c : Nat) (demand : Demand) (outcome : Except Fault Answer)
  /-- A client looked into the cache. -/
  | recalled (c : Nat) (content : String) (existing : List String) (now : τ)
      (tags : Option (List String))
  /-- An id was drawn for a job. -/
  | drew (id : String)
  | accepted (id : String)
  | asked (asker : Asker) (scope : ScopeId) (request : SuggestTagsRequest)
  | answered (asker : Asker) (outcome : Except Fault SuggestTagsResponse)
  /-- Tags were put into the cache, and the entries under some keys had to make room. -/
  | stored (asker : Asker) (content : String) (existing tags : List String) (now : τ)
      (evicted : List String)
  | cleared
  | begun (id : String)
  | published (id : String) (outcome : Except Fault SuggestTagsResponse)
  | told (callback : κ) (job : TagJob)
  | shown (id : String) (job : Option TagJob)
  | expired (ids : List String)
  | cancelled
  | abandoned (id : String)
  /-- The work is stopped, and whoever stopped it has come back. -/
  | stopped

/-- What the rest of the program may do to the world at any moment. -/
inductive Elsewhere (τ : Type) where
  | openScope (timeout : Option τ) (parent : Option ScopeId)
  | cancel (id : ScopeId)
  | cancelAfter (id : ScopeId) (span : τ)
  | advance (span : τ)
  | sleep (id : ScopeId) (span : τ)
  | draw (count : Nat)
  | send (attempt : Sent τ)
  | report (e : Event τ)

def Elsewhere.work : Elsewhere τ → Act (World τ) Unit
  | .openScope timeout parent => do let _ ← World.openScope timeout parent
  | .cancel id => World.cancel id
  | .cancelAfter id span => World.onTime (Act.modify (Timeline.cancelAfter id span))
  | .advance span => World.advance span
  | .sleep id span => World.sleep id span
  | .draw count => do let _ ← World.draw count
  | .send attempt => do let _ ← World.send attempt
  | .report e => World.report e

structure Office (τ κ β : Type) where
  room : Room τ κ β
  /-- The client who holds the lock at the door. -/
  door : Option Nat := none
  /-- Are the workers to leave? -/
  signalled : Bool := false
  clients : Nat → Errand τ := fun _ => .idle
  workers : Nat → Shift κ
  /-- Only workers with a lower number ever come. -/
  crew : Nat
  log : List (Happening τ κ) := []

namespace Office

/-- Workers come only where jobs are taken. -/
def start (config : TaggingConfig τ) (world : World τ) (partner : β) (crew : Nat) :
    Office τ κ β :=
  { room := Tagging.enter config world partner
    workers := fun w => if config.takesJobs && w < crew then .looking else .gone
    crew }

def tagger (o : Office τ κ β) : Tagger τ κ := o.room.tagger

def board (o : Office τ κ β) : JobBoard := o.room.tagger.board

def now (o : Office τ κ β) : τ := o.room.world.time.now

/-- The office after some work was done in the room. -/
def after {α : Type} (work : Room.Work τ κ β α) (o : Office τ κ β) : Office τ κ β :=
  { o with room := (work o.room).2 }

def client (c : Nat) (errand : Errand τ) (o : Office τ κ β) : Office τ κ β :=
  { o with clients := Function.update o.clients c errand }

def worker (w : Nat) (shift : Shift κ) (o : Office τ κ β) : Office τ κ β :=
  { o with workers := Function.update o.workers w shift }

def lock (c : Nat) (o : Office τ κ β) : Office τ κ β := { o with door := some c }

def unlock (o : Office τ κ β) : Office τ κ β := { o with door := none }

def note (entry : Happening τ κ) (o : Office τ κ β) : Office τ κ β :=
  { o with log := o.log ++ [entry] }

/-- A demand comes to its end. -/
def reply (c : Nat) (demand : Demand) (outcome : Except Fault Answer) (o : Office τ κ β) :
    Office τ κ β :=
  (o.client c .idle).note (.returned c demand outcome)

end Office

/-- What is looked at before anything else is done for a demand. -/
def Demand.entrance (demand : Demand) : Room.Work τ κ β Unit :=
  match demand.purpose with
  | .now _ => Tagging.requireEnabled
  | .later _ => Tagging.requireOpen

/-- The job that a demand is made into. -/
def Demand.job (demand : Demand) (memo : Int) : Room.Work τ κ β TagJob :=
  Tagging.newJob demand.user memo demand.content demand.existing

namespace Office

/-- What the log says about a look into the cache. -/
def recalling (c : Nat) (demand : Demand) (tags : Option (List String)) (o : Office τ κ β) :
    Happening τ κ :=
  .recalled c demand.content demand.existing o.now tags

/-- What the log says about a result that is kept in the cache. -/
def storing (asker : Asker) (content : String) (existing tags : List String) (o : Office τ κ β) :
    Happening τ κ :=
  let kept := (o.after (Tagging.keep content existing tags)).tagger.cache.map Prod.fst
  .stored asker content existing tags o.now
    ((o.tagger.cache.map Prod.fst).filter fun key => !kept.contains key)

def asking (asker : Asker) (scope : ScopeId) (content : String) (existing : List String)
    (o : Office τ κ β) : Happening τ κ :=
  .asked asker scope (Tagging.request o.tagger.config content existing)

/-- One step of a client with a demand. -/
inductive CallStep (c : Nat) (d : Demand) :
    CallStage τ → Office τ κ β → Office τ κ β → Prop where
  | enter {o} (admitted : (d.entrance o.room).1 = .ok ()) :
      CallStep c d .entering o (o.client c (.call d .metering))
  | barred {o f} (refused : (d.entrance o.room).1 = .error f) :
      CallStep c d .entering o (o.reply c d (.error f))
  | read {o} : CallStep c d .metering o (o.client c (.call d (.metered o.now)))
  | grant {o now} (granted : (Tagging.grantAt now d.user o.room).1 = .ok ()) :
      CallStep c d (.metered now) o
        ((o.after (Tagging.grantAt now d.user)).client c (.call d .recalling))
  | overQuota {o now f} (refused : (Tagging.grantAt now d.user o.room).1 = .error f) :
      CallStep c d (.metered now) o
        ((o.after (Tagging.grantAt now d.user)).reply c d (.error f))
  | hit {o tags} (found : (Tagging.cached d.content d.existing o.room).1 = .ok (some tags)) :
      CallStep c d .recalling o
        ((o.note (o.recalling c d (some tags))).client c (.call d (.found tags)))
  | serve {o scope tags} (at_once : d.purpose = .now scope) :
      CallStep c d (.found tags) o (o.reply c d (.ok (.tags { tags })))
  | serveJob {o memo tags job} (later : d.purpose = .later memo)
      (named : (d.job memo o.room).1 = .ok job) :
      CallStep c d (.found tags) o
        (((o.after (d.job memo)).note (.drew job.id)).reply c d
          (.ok (.job (job.finished (.ok { tags }) job.created))))
  | unserved {o memo tags f} (later : d.purpose = .later memo)
      (refused : (d.job memo o.room).1 = .error f) :
      CallStep c d (.found tags) o ((o.after (d.job memo)).reply c d (.error f))
  | miss {o} (absent : (Tagging.cached d.content d.existing o.room).1 = .ok none) :
      CallStep c d .recalling o ((o.note (o.recalling c d none)).client c (.call d .missing))
  | name {o memo job} (later : d.purpose = .later memo) (named : (d.job memo o.room).1 = .ok job) :
      CallStep c d .missing o
        (((o.after (d.job memo)).note (.drew job.id)).client c (.call d (.ready job)))
  | unnamed {o memo f} (later : d.purpose = .later memo)
      (refused : (d.job memo o.room).1 = .error f) :
      CallStep c d .missing o ((o.after (d.job memo)).reply c d (.error f))
  | lock {o job} (free : o.door = none) :
      CallStep c d (.ready job) o ((o.lock c).client c (.call d (.rechecking job)))
  | proceed {o job} (running : (Tagging.requireRunning o.room).1 = .ok ()) :
      CallStep c d (.rechecking job) o (o.client c (.call d (.recording job)))
  | tooLate {o job f} (refused : (Tagging.requireRunning o.room).1 = .error f) :
      CallStep c d (.rechecking job) o (o.client c (.call d (.leaving (.error f))))
  | record {o job} :
      CallStep c d (.recording job) o
        ((o.after (Tagging.record job)).client c (.call d (.offering job)))
  | accept {o job} (queued : (Tagging.offer job.id o.room).1 = .ok true) :
      CallStep c d (.offering job) o
        (((o.after (Tagging.offer job.id)).note (.accepted job.id)).client c
          (.call d (.leaving (.ok job))))
  | full {o job} (refused : (Tagging.offer job.id o.room).1 = .ok false) :
      CallStep c d (.offering job) o (o.client c (.call d (.withdrawing job)))
  | withdraw {o job} :
      CallStep c d (.withdrawing job) o
        ((o.after (Tagging.withdraw job.id)).client c
          (.call d (.leaving (.error (.of .queueFull)))))
  | leave {o outcome} :
      CallStep c d (.leaving outcome) o (o.unlock.reply c d (outcome.map Answer.job))
  | openInner {o scope inner} (at_once : d.purpose = .now scope)
      (opened : (Tagging.openInner scope o.room).1 = .ok inner) :
      CallStep c d .missing o
        ((o.after (Tagging.openInner scope)).client c (.call d (.scoped inner)))
  | ask {o inner} :
      CallStep c d (.scoped inner) o
        ((o.note (o.asking (.client c) inner d.content d.existing)).client c (.call d .awaiting))
  | answer {o response} :
      CallStep c d .awaiting o
        ((o.note (.answered (.client c) (.ok response))).client c (.call d (.keeping response)))
  | fail {o f} :
      CallStep c d .awaiting o
        ((o.note (.answered (.client c) (.error f))).reply c d (.error f))
  | keep {o response} :
      CallStep c d (.keeping response) o
        (((o.after (Tagging.keep d.content d.existing response.tags)).note
          (o.storing (.client c) d.content d.existing response.tags)).client c
          (.call d (.telling response)))
  | report {o response} :
      CallStep c d (.telling response) o
        ((o.after (Tagging.reportTags d.user response)).reply c d (.ok (.tags response)))

/-- One step of a client who stops the work. Whoever comes second goes away again. -/
inductive StopStep (c : Nat) : StopStage → Office τ κ β → Office τ κ β → Prop where
  | lock {o} (free : o.door = none) :
      StopStep c .arriving o ((o.lock c).client c (.stop .closing))
  | close {o} (first : (Tagging.close o.room).1 = .ok false) :
      StopStep c .closing o ((o.after Tagging.close).client c (.stop (.unlocking true)))
  | late {o} (closed : (Tagging.close o.room).1 = .ok true) :
      StopStep c .closing o (o.client c (.stop (.unlocking false)))
  | goOn {o} : StopStep c (.unlocking true) o (o.unlock.client c (.stop .signalling))
  | goBack {o} : StopStep c (.unlocking false) o (o.unlock.client c .idle)
  | signal {o} :
      StopStep c .signalling o ({ o with signalled := true }.client c (.stop .cancelling))
  | cancel {o} :
      StopStep c .cancelling o
        (((o.after Tagging.cancelJobs).note .cancelled).client c (.stop (.joining 0)))
  | join {o next} (comes : next < o.crew) (gone : o.workers next = .gone) :
      StopStep c (.joining next) o (o.client c (.stop (.joining (next + 1))))
  | joined {o next} (all : next = o.crew) :
      StopStep c (.joining next) o (o.client c (.stop .draining))
  | take {o id} (found : (Tagging.takeWaiting o.room).1 = .ok (some id)) :
      StopStep c .draining o
        ((o.after Tagging.takeWaiting).client c (.stop (.failing id)))
  | drained {o} (empty : (Tagging.takeWaiting o.room).1 = .ok none) :
      StopStep c .draining o (o.client c (.stop .reporting))
  | fail {o id} :
      StopStep c (.failing id) o
        (((o.after (Tagging.abandonJob id)).note (.abandoned id)).client c (.stop .draining))
  | report {o} :
      StopStep c .reporting o
        (((o.after Tagging.reportStop).note .stopped).client c .idle)

/-- One step of a worker. It may still fetch a job after the signal, if it looked before. -/
inductive ShiftStep (w : Nat) : Shift κ → Office τ κ β → Office τ κ β → Prop where
  | look {o} (stay : o.signalled = false) : ShiftStep w .looking o (o.worker w .fetching)
  | go {o} (told : o.signalled = true) : ShiftStep w .looking o (o.worker w .gone)
  | fetch {o id} (found : (Tagging.takeWaiting o.room).1 = .ok (some id)) :
      ShiftStep w .fetching o ((o.after Tagging.takeWaiting).worker w (.holding id))
  | rest {o} (empty : (Tagging.takeWaiting o.room).1 = .ok none) :
      ShiftStep w .fetching o (o.worker w .looking)
  | start {o id job root} (found : (Tagging.beginJob id o.room).1 = .ok (some (job, root))) :
      ShiftStep w (.holding id) o
        (((o.after (Tagging.beginJob id)).note (.begun id)).worker w (.started job root))
  | unknown {o id} (absent : (Tagging.beginJob id o.room).1 = .ok none) :
      ShiftStep w (.holding id) o (o.worker w .looking)
  | openInner {o job root inner} (opened : (Tagging.openInner root o.room).1 = .ok inner) :
      ShiftStep w (.started job root) o
        ((o.after (Tagging.openInner root)).worker w (.scoped job inner))
  | ask {o job inner} :
      ShiftStep w (.scoped job inner) o
        ((o.note (o.asking (.worker w job.id) inner job.content job.existing)).worker w
          (.awaiting job inner))
  | answer {o job inner response} :
      ShiftStep w (.awaiting job inner) o
        ((o.note (.answered (.worker w job.id) (.ok response))).worker w (.caching job response))
  | fail {o job inner f} :
      ShiftStep w (.awaiting job inner) o
        ((o.note (.answered (.worker w job.id) (.error f))).worker w
          (.publishing job (.error f)))
  | keep {o job response} :
      ShiftStep w (.caching job response) o
        (((o.after (Tagging.keep job.content job.existing response.tags)).note
          (o.storing (.worker w job.id) job.content job.existing response.tags)).worker w
          (.publishing job (.ok response)))
  | publish {o job outcome finished callback}
      (recorded : (Tagging.finishJob job outcome o.room).1 = .ok (finished, callback)) :
      ShiftStep w (.publishing job outcome) o
        (((o.after (Tagging.finishJob job outcome)).note (.published job.id outcome)).worker w
          (.telling callback finished))
  | tell {o callback finished} :
      ShiftStep w (.telling (some callback) finished) o
        ((o.note (.told callback finished)).worker w .looking)
  | keepStill {o finished} : ShiftStep w (.telling none finished) o (o.worker w .looking)

/-- The ids of the jobs that go when those finished before a moment are forgotten. -/
def expiring (cutoff : Instant) (o : Office τ κ β) : List String :=
  (o.board.jobs.filter (JobBoard.isExpired cutoff)).map TagJob.id

/-- What anybody may do in a single visit. -/
inductive AsideStep : Office τ κ β → Office τ κ β → Prop where
  | call {o c d} (free : o.clients c = .idle) :
      AsideStep o ((o.note (.called c d)).client c (.call d .entering))
  | stop {o c} (free : o.clients c = .idle) : AsideStep o (o.client c (.stop .arriving))
  | look {o id job} (seen : (Tagging.job? id o.room).1 = .ok job) :
      AsideStep o (o.note (.shown id job))
  | tidy {o cutoff} :
      AsideStep o ((o.after (Tagging.expireBefore cutoff)).note (.expired (o.expiring cutoff)))
  | clear {o} : AsideStep o ((o.after Tagging.clearCache).note .cleared)
  | setCallback {o callback} : AsideStep o (o.after (Tagging.setCallback callback))
  | elsewhere {o} (e : Elsewhere τ) : AsideStep o (o.after (Room.onWorld e.work))
  /-- The scope of all jobs is never let go. -/
  | release {o id} (other : id ≠ o.tagger.root) :
      AsideStep o
        (o.after (Room.onWorld (World.onTime (Act.modify (Timeline.release id)))))
  | partner {o} (partner : β) : AsideStep o { o with room := { o.room with partner } }

/-- One step of anybody. -/
inductive Step : Office τ κ β → Office τ κ β → Prop where
  | call {o o' c d stage} (here : o.clients c = .call d stage) (step : CallStep c d stage o o') :
      Step o o'
  | stop {o o' c stage} (here : o.clients c = .stop stage) (step : StopStep c stage o o') :
      Step o o'
  | shift {o o' w stage} (here : o.workers w = stage) (step : ShiftStep w stage o o') : Step o o'
  | aside {o o'} (step : AsideStep o o') : Step o o'

/-- One office comes out of another after any number of steps. -/
abbrev Leads : Office τ κ β → Office τ κ β → Prop := Relation.ReflTransGen Step

end Office

end MemoAssist

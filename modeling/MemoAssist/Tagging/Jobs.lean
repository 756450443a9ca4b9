import MemoAssist.Clock.Instant
import MemoAssist.Provider.Request

/-! Jobs and the queue in which they wait. Each step here is done at once; what a worker does for a
job is two of them, with the request in between. -/
namespace MemoAssist

inductive JobStatus where
  | pending
  | running
  | completed
  | failed
deriving DecidableEq, Repr

namespace JobStatus

def word : JobStatus → String
  | .pending => "pending"
  | .running => "running"
  | .completed => "completed"
  | .failed => "failed"

def isFinal : JobStatus → Bool
  | .completed | .failed => true
  | _ => false

end JobStatus

/-- A suggestion of tags that is worked out later. -/
structure TagJob where
  id : String
  memo : Int
  content : String
  existing : List String
  user : Int
  status : JobStatus := .pending
  result : Option SuggestTagsResponse := none
  fault : Option Fault := none
  created : Instant
  completed : Option Instant := none

namespace TagJob

/-- The job while it is worked on. -/
def atWork (job : TagJob) : TagJob := { job with status := .running }

/-- The job as its outcome leaves it. -/
def finished (outcome : Except Fault SuggestTagsResponse) (moment : Instant) (job : TagJob) : TagJob :=
  match outcome with
  | .ok response => { job with status := .completed, result := some response, completed := some moment }
  | .error fault => { job with status := .failed, fault := some fault, completed := some moment }

end TagJob

/-- The jobs, in the order in which they came, and the ids of those that wait. -/
structure JobBoard where
  jobs : List TagJob := []
  queue : List String := []

namespace JobBoard

def find? (id : String) (b : JobBoard) : Option TagJob := b.jobs.find? fun job => job.id = id

/-- An id that is there keeps its place. -/
def put (job : TagJob) : List TagJob → List TagJob
  | [] => [job]
  | other :: rest => if other.id = job.id then job :: rest else other :: put job rest

def record (job : TagJob) (b : JobBoard) : JobBoard := { b with jobs := put job b.jobs }

def change (id : String) (f : TagJob → TagJob) (b : JobBoard) : JobBoard :=
  { b with jobs := b.jobs.map fun job => if job.id = id then f job else job }

def withdraw (id : String) (b : JobBoard) : JobBoard :=
  { b with jobs := b.jobs.filter fun job => job.id ≠ id }

/-- Without a positive limit the queue is never full. -/
def isFull (limit : Int) (b : JobBoard) : Bool := 0 < limit && limit ≤ b.queue.length

def enqueue (id : String) (b : JobBoard) : JobBoard := { b with queue := b.queue ++ [id] }

/-- Take the id that has waited longest. -/
def dequeue? (b : JobBoard) : Option (String × JobBoard) :=
  match b.queue with
  | [] => none
  | id :: rest => some (id, { b with queue := rest })

/-- Mark a job as running, and hand it out. -/
def begin? (id : String) (b : JobBoard) : Option (TagJob × JobBoard) :=
  (b.find? id).map fun job => (job.atWork, b.change id fun _ => job.atWork)

/-- Publish what a job came to. -/
def finish (job : TagJob) (outcome : Except Fault SuggestTagsResponse) (moment : Instant)
    (b : JobBoard) : TagJob × JobBoard :=
  let finished := job.finished outcome moment
  (finished, b.change job.id fun _ => finished)

/-- What becomes of jobs that still wait when the work stops. -/
def stopped : Fault := ⟨.cancelled, "tag service stopped"⟩

/-- Fail a job if it still waits. -/
def abandon (moment : Instant) (job : TagJob) : TagJob :=
  if job.status = .pending then job.finished (.error stopped) moment else job

/-- Empty the queue; the jobs in it fail. -/
def drain (moment : Instant) (b : JobBoard) : JobBoard :=
  b.queue.foldl (fun b id => b.change id (abandon moment)) { b with queue := [] }

/-- Was the job finished before a moment? -/
def isExpired (cutoff : Instant) (job : TagJob) : Bool :=
  job.status.isFinal && job.completed.any fun t => t.micros < cutoff.micros

/-- Forget the jobs that were finished before a moment: how many were there? -/
def expire (cutoff : Instant) (b : JobBoard) : Nat × JobBoard :=
  let kept := b.jobs.filter fun job => !isExpired cutoff job
  (b.jobs.length - kept.length, { b with jobs := kept })

end JobBoard

end MemoAssist

import MemoAssist.Proofs.Tagging.Board
import Mathlib.Logic.Function.Basic
import Mathlib.Logic.Relation

/-! Custody of jobs. Whoever has a job in hand is its only holder, and what a holder has in hand says
what the board records of the job. Each id goes through its places one after the other: it is drawn,
offered, waits, is taken, is worked on and ends. -/
namespace MemoAssist

/-- Someone who may have a job in hand. -/
inductive Holder where
  | client (c : Nat)
  | worker (w : Nat)
deriving DecidableEq

/-- What somebody has in hand of a job. -/
inductive Hold where
  /-- The job is not recorded yet. -/
  | fresh (job : TagJob)
  /-- It is recorded, and neither queued nor withdrawn. -/
  | offered (job : TagJob)
  /-- It is out of the queue, and nothing else was done. -/
  | taken (id : String)
  | begun (job : TagJob)
  /-- The backend was asked for it. -/
  | asked (job : TagJob)

def Hold.id : Hold → String
  | .fresh job | .offered job | .begun job | .asked job => job.id
  | .taken id => id

/-- The board, what everybody has in hand, and what has happened to which ids. -/
structure Ledger where
  board : JobBoard
  hold : Holder → Option Hold
  drawn : List String
  accepted : List String
  begun : List String
  asked : List String
  published : List (String × Except Fault SuggestTagsResponse)
  expired : List String

namespace TagJob

/-- A job nobody has worked on. -/
def Blank (job : TagJob) : Prop :=
  job.status = .pending ∧ job.result = none ∧ job.fault = none ∧ job.completed = none

/-- What a job says of its end fits its status. -/
structure Shaped (job : TagJob) : Prop where
  completed : job.completed.isSome = job.status.isFinal
  result : job.result.isSome = true ↔ job.status = .completed
  fault : job.fault.isSome = true ↔ job.status = .failed

theorem Blank.shaped {job : TagJob} (blank : job.Blank) : job.Shaped := by
  obtain ⟨status, result, fault, completed⟩ := blank
  constructor <;> simp [status, result, fault, completed, JobStatus.isFinal]

/-- Only a job that waits or is worked on can be finished. -/
theorem Shaped.finished {job : TagJob} (shaped : job.Shaped) (early : job.status.isFinal = false)
    (outcome : Except Fault SuggestTagsResponse) (moment : Instant) :
    (job.finished outcome moment).Shaped := by
  have noResult : job.result = none := by
    cases held : job.result with
    | none => rfl
    | some _ =>
      have ended := shaped.result.mp (by simp [held])
      simp [ended, JobStatus.isFinal] at early
  have noFault : job.fault = none := by
    cases held : job.fault with
    | none => rfl
    | some _ =>
      have ended := shaped.fault.mp (by simp [held])
      simp [ended, JobStatus.isFinal] at early
  cases outcome <;> constructor <;> simp [TagJob.finished, JobStatus.isFinal, noResult, noFault]

@[simp] theorem atWork_id {job : TagJob} : job.atWork.id = job.id := rfl

@[simp] theorem finished_id {job : TagJob} {outcome : Except Fault SuggestTagsResponse}
    {moment : Instant} : (job.finished outcome moment).id = job.id := by
  cases outcome <;> rfl

theorem finished_final {job : TagJob} {outcome : Except Fault SuggestTagsResponse}
    {moment : Instant} : (job.finished outcome moment).status.isFinal = true := by
  cases outcome <;> rfl

end TagJob

namespace Ledger

def put (x : Holder) (h : Option Hold) (l : Ledger) : Ledger :=
  { l with hold := Function.update l.hold x h }

/-- Nobody has the id in hand. -/
def Free (l : Ledger) (id : String) : Prop := ∀ y h, l.hold y = some h → h.id ≠ id

/-- Nobody else has the id in hand. -/
def Only (l : Ledger) (x : Holder) (id : String) : Prop :=
  ∀ y h, l.hold y = some h → h.id = id → y = x

/-- What the board and the log of requests say about a job in hand. -/
def Fits (l : Ledger) : Hold → Prop
  | .fresh job => job.Blank ∧ l.board.find? job.id = none ∧ job.id ∉ l.asked
  | .offered job =>
    l.board.find? job.id = some job ∧ job.status = .pending ∧ job.id ∉ l.asked
  | .taken id => ∃ job, l.board.find? id = some job ∧ job.status = .pending ∧ id ∉ l.asked
  | .begun job => l.board.find? job.id = some job ∧ job.status = .running ∧ job.id ∉ l.asked
  | .asked job => l.board.find? job.id = some job ∧ job.status = .running

/-- Where an id is: nowhere, in the queue, in one hand, or at its end. -/
inductive Place (l : Ledger) (id : String) : Prop where
  | absent (unknown : l.board.find? id = none) (out : id ∉ l.board.queue) (free : l.Free id)
  | waiting (job : TagJob) (found : l.board.find? id = some job) (pending : job.status = .pending)
      (queued : id ∈ l.board.queue) (free : l.Free id) (unasked : id ∉ l.asked)
  | held (x : Holder) (h : Hold) (holds : l.hold x = some h) (named : h.id = id)
      (only : l.Only x id) (out : id ∉ l.board.queue) (fits : l.Fits h)
  | final (job : TagJob) (found : l.board.find? id = some job) (ended : job.status.isFinal = true)
      (out : id ∉ l.board.queue) (free : l.Free id)

/-- What a holder may do with the job under an id, the queue being bounded by a limit. -/
inductive Handling (limit : Int) : Holder → String → Ledger → Ledger → Prop where
  | name {l x job} (empty : l.hold x = none) (blank : job.Blank) :
      Handling limit x job.id l
        { l.put x (some (.fresh job)) with drawn := l.drawn ++ [job.id] }
  | drop {l x job} (holds : l.hold x = some (.fresh job)) :
      Handling limit x job.id l (l.put x none)
  | record {l x job} (holds : l.hold x = some (.fresh job)) :
      Handling limit x job.id l
        { l.put x (some (.offered job)) with board := l.board.record job }
  | accept {l x job} (holds : l.hold x = some (.offered job))
      (room : l.board.isFull limit = false) :
      Handling limit x job.id l
        { l.put x none with
          board := l.board.enqueue job.id, accepted := l.accepted ++ [job.id] }
  | withdraw {l x job} (holds : l.hold x = some (.offered job)) :
      Handling limit x job.id l { l.put x none with board := l.board.withdraw job.id }
  | take {l x id queue} (empty : l.hold x = none) (next : l.board.queue = id :: queue) :
      Handling limit x id l
        { l.put x (some (.taken id)) with board := { l.board with queue } }
  | begin {l w id job} (holds : l.hold (.worker w) = some (.taken id))
      (found : l.board.find? id = some job) :
      Handling limit (.worker w) id l
        { l.put (.worker w) (some (.begun job.atWork)) with
          board := l.board.change id fun _ => job.atWork
          begun := l.begun ++ [id] }
  | lose {l x id} (holds : l.hold x = some (.taken id)) (unknown : l.board.find? id = none) :
      Handling limit x id l (l.put x none)
  | ask {l x job} (holds : l.hold x = some (.begun job)) :
      Handling limit x job.id l
        { l.put x (some (.asked job)) with asked := l.asked ++ [job.id] }
  | finish {l x job outcome moment} (holds : l.hold x = some (.asked job)) :
      Handling limit x job.id l
        { l.put x none with
          board := l.board.change job.id fun _ => job.finished outcome moment
          published := l.published ++ [(job.id, outcome)] }
  | abandon {l c id moment} (holds : l.hold (.client c) = some (.taken id)) :
      Handling limit (.client c) id l
        { l.put (.client c) none with
          board := l.board.change id (JobBoard.abandon moment) }

/-- What may happen to jobs. -/
inductive Step (limit : Int) : Ledger → Ledger → Prop where
  | still {l} : Step limit l l
  /-- An id is drawn for a job that nobody will record. -/
  | draw {l} (id : String) : Step limit l { l with drawn := l.drawn ++ [id] }
  | handle {l l' x id} (handling : Handling limit x id l l') : Step limit l l'
  | expire {l cutoff} :
      Step limit l
        { l with
          board := (l.board.expire cutoff).2
          expired := l.expired ++
            (l.board.jobs.filter (JobBoard.isExpired cutoff)).map TagJob.id }

/-- What holds of jobs at all times. -/
structure Sound (limit : Int) (l : Ledger) : Prop where
  place : ∀ id, l.Place id
  /-- Nothing is known of an id that was not drawn. -/
  undrawn : ∀ id, id ∉ l.drawn → l.board.find? id = none ∧ l.Free id ∧ id ∉ l.asked
  ids : l.board.ids.Nodup
  queue : l.board.queue.Nodup
  once : l.asked.Nodup
  shaped : ∀ id job, l.board.find? id = some job → job.Shaped
  /-- The queue holds the ids that were accepted last, in the order in which they were. -/
  order : ∃ gone, l.accepted = gone ++ l.board.queue
  bound : 0 < limit → l.board.queue.length ≤ limit

/-- Nothing has happened yet. -/
def blank : Ledger where
  board := {}
  hold _ := none
  drawn := []
  accepted := []
  begun := []
  asked := []
  published := []
  expired := []

private theorem blank_free (id : String) : blank.Free id := fun _ _ held => nomatch held

theorem blank_sound {limit : Int} : blank.Sound limit where
  place id := .absent rfl List.not_mem_nil (blank_free id)
  undrawn id _ := ⟨rfl, blank_free id, List.not_mem_nil⟩
  ids := List.nodup_nil
  queue := List.nodup_nil
  once := List.nodup_nil
  shaped _ _ found := by simp [blank, JobBoard.find?] at found
  order := ⟨[], rfl⟩
  bound bounded := by simpa [blank] using Int.le_of_lt bounded

/-! ### One id at a time -/

variable {l : Ledger} {x : Holder} {id : String} {limit : Int}

@[simp] theorem put_hold {h : Option Hold} :
    (l.put x h).hold = Function.update l.hold x h := rfl

/-- A step leaves the places of all ids alone that it does not touch. -/
theorem Place.frame {l' : Ledger} (place : l.Place id)
    (found : l'.board.find? id = l.board.find? id)
    (queued : id ∈ l'.board.queue ↔ id ∈ l.board.queue)
    (holds : ∀ y h, h.id = id → (l'.hold y = some h ↔ l.hold y = some h))
    (asked : id ∈ l'.asked ↔ id ∈ l.asked) : l'.Place id := by
  have freed (free : l.Free id) : l'.Free id :=
    fun y h held named => free y h ((holds y h named).mp held) named
  cases place with
  | absent unknown out free =>
    exact .absent (found.trans unknown) (fun member => out (queued.mp member)) (freed free)
  | waiting job here pending inside free unasked =>
    exact .waiting job (found.trans here) pending (queued.mpr inside) (freed free)
      (fun member => unasked (asked.mp member))
  | final job here ended out free =>
    exact .final job (found.trans here) ended (fun member => out (queued.mp member)) (freed free)
  | held x h held named only out fits =>
    refine .held x h ((holds x h named).mpr held) named ?_ (fun member => out (queued.mp member)) ?_
    · intro y k other same
      exact only y k ((holds y k same).mp other) same
    · subst named
      cases h with
      | fresh job => exact ⟨fits.1, found.trans fits.2.1, fun member => fits.2.2 (asked.mp member)⟩
      | offered job =>
        exact ⟨found.trans fits.1, fits.2.1, fun member => fits.2.2 (asked.mp member)⟩
      | taken id =>
        obtain ⟨job, here, pending, unasked⟩ := fits
        exact ⟨job, found.trans here, pending, fun member => unasked (asked.mp member)⟩
      | begun job => exact ⟨found.trans fits.1, fits.2.1, fun member => fits.2.2 (asked.mp member)⟩
      | asked job => exact ⟨found.trans fits.1, fits.2⟩

/-- Somebody who has an id in hand is its holder. -/
theorem Place.of_hold {h : Hold} (place : l.Place h.id) (holds : l.hold x = some h) :
    l.Only x h.id ∧ h.id ∉ l.board.queue ∧ l.Fits h := by
  cases place with
  | absent _ _ free | waiting _ _ _ _ free _ | final _ _ _ _ free => exact absurd rfl (free x h holds)
  | held y k other named only out fits =>
    obtain rfl : x = y := only x h holds rfl
    obtain rfl : h = k := Option.some.inj (holds.symm.trans other)
    exact ⟨only, out, fits⟩

/-- A job that waits is in the queue, or in the hand of whoever offers it or took it out. -/
theorem Place.of_pending {job : TagJob} (place : l.Place id)
    (found : l.board.find? id = some job) (pending : job.status = .pending) :
    (id ∈ l.board.queue ∧ l.Free id) ∨
      (id ∉ l.board.queue ∧ ∃ x, l.Only x id ∧
        (l.hold x = some (.offered job) ∨ l.hold x = some (.taken id))) := by
  have same {other : TagJob} (here : l.board.find? id = some other) : other = job :=
    Option.some.inj (here.symm.trans found)
  cases place with
  | absent unknown => exact nomatch unknown.symm.trans found
  | waiting _ _ _ queued free => exact .inl ⟨queued, free⟩
  | final other here ended =>
    obtain rfl := same here
    simp [pending, JobStatus.isFinal] at ended
  | held x h holds named only out fits =>
    refine .inr ⟨out, x, only, ?_⟩
    subst named
    cases h with
    | taken id => exact .inr holds
    | offered other =>
      obtain rfl := same fits.1
      exact .inl holds
    | fresh other => exact nomatch fits.2.1.symm.trans found
    | begun other =>
      obtain rfl := same fits.1
      exact nomatch pending.symm.trans fits.2.1
    | asked other =>
      obtain rfl := same fits.1
      exact nomatch pending.symm.trans fits.2

theorem Only.keep {new : Option Hold} (only : l.Only x id) : (l.put x new).Only x id := by
  intro y h held named
  by_cases same : y = x
  · exact same
  · exact only y h (by simpa [Function.update_of_ne same] using held) named

/-- When the only holder lets go of an id, nobody has it. -/
theorem Only.release (only : l.Only x id) : (l.put x none).Free id := by
  intro y h held named
  by_cases same : y = x
  · simp [same] at held
  · rw [put_hold, Function.update_of_ne same] at held
    exact same (only y h held named)

/-- Whoever takes an id that nobody has is its only holder. -/
theorem Free.take {new : Option Hold} (free : l.Free id) : (l.put x new).Only x id := by
  intro y h held named
  by_cases same : y = x
  · exact same
  · rw [put_hold, Function.update_of_ne same] at held
    exact absurd named (free y h held)

/-- One hand and one id are all that two ledgers differ in. -/
structure Touches (x : Holder) (id : String) (l l' : Ledger) : Prop where
  others : ∀ y, y ≠ x → l'.hold y = l.hold y
  old : ∀ h, l.hold x = some h → h.id = id
  new : ∀ h, l'.hold x = some h → h.id = id
  found : ∀ other, other ≠ id → l'.board.find? other = l.board.find? other
  queued : ∀ other, other ≠ id → (other ∈ l'.board.queue ↔ other ∈ l.board.queue)
  asked : ∀ other, other ≠ id → (other ∈ l'.asked ↔ other ∈ l.asked)

private theorem Touches.holds_iff {l' : Ledger} (touches : Touches x id l l') {other : String}
    (apart : other ≠ id) (y : Holder) (h : Hold) (named : h.id = other) :
    l'.hold y = some h ↔ l.hold y = some h := by
  by_cases same : y = x
  · subst same
    constructor
    · intro held
      exact absurd (named.symm.trans (touches.new h held)) apart
    · intro held
      exact absurd (named.symm.trans (touches.old h held)) apart
  · rw [touches.others y same]

theorem Touches.place {l' : Ledger} (touches : Touches x id l l') (places : ∀ id, l.Place id)
    (here : l'.Place id) (other : String) : l'.Place other := by
  by_cases same : other = id
  · exact same ▸ here
  · exact (places other).frame (touches.found other same) (touches.queued other same)
      (touches.holds_iff same) (touches.asked other same)

theorem change_found {b : JobBoard} {job : TagJob} (next : TagJob)
    (found : b.find? id = some job) (kept : next.id = id) :
    (b.change id fun _ => next).find? id = some next ∧
      ∀ other, other ≠ id → (b.change id fun _ => next).find? other = b.find? other := by
  have changed (other : String) : (b.change id fun _ => next).find? other =
      if other = id then (b.find? id).map (fun _ => next) else b.find? other :=
    JobBoard.find?_change fun _ _ => kept
  constructor
  · simp [changed, found]
  · intro other apart
    simp [changed, apart]

theorem abandon_id {moment : Instant} {job : TagJob} :
    (JobBoard.abandon moment job).id = job.id := by
  unfold JobBoard.abandon
  split <;> simp

theorem find?_abandon {b : JobBoard} {moment : Instant} {other : String} :
    (b.change id (JobBoard.abandon moment)).find? other =
      if other = id then (b.find? id).map (JobBoard.abandon moment) else b.find? other :=
  JobBoard.find?_change fun _ same => abandon_id.trans same

theorem Handling.touches {l' : Ledger} (handling : Handling limit x id l l')
    (places : ∀ id, l.Place id) : Touches x id l l' := by
  have others (new : Option Hold) (y : Holder) (apart : y ≠ x) : (l.put x new).hold y = l.hold y := by
    rw [put_hold, Function.update_of_ne apart]
  cases handling with
  | name empty blank =>
    exact ⟨others _, by simp [empty], by simp [Hold.id], fun _ _ => rfl, fun _ _ => Iff.rfl,
      fun _ _ => Iff.rfl⟩
  | drop holds =>
    exact ⟨others _, by simp [holds, Hold.id], by simp, fun _ _ => rfl, fun _ _ => Iff.rfl,
      fun _ _ => Iff.rfl⟩
  | record holds =>
    exact ⟨others _, by simp [holds, Hold.id], by simp [Hold.id],
      fun _ apart => by simp [apart], fun _ _ => Iff.rfl, fun _ _ => Iff.rfl⟩
  | accept holds room =>
    exact ⟨others _, by simp [holds, Hold.id], by simp, fun _ _ => rfl,
      fun _ apart => by simp [apart], fun _ _ => Iff.rfl⟩
  | withdraw holds =>
    exact ⟨others _, by simp [holds, Hold.id], by simp, fun _ apart => by simp [apart],
      fun _ _ => Iff.rfl, fun _ _ => Iff.rfl⟩
  | take empty next =>
    exact ⟨others _, by simp [empty], by simp [Hold.id], fun _ _ => rfl,
      fun _ apart => by simp [next, apart], fun _ _ => Iff.rfl⟩
  | @begin _ w id job holds found =>
    have named : job.id = id := JobBoard.find?_id found
    obtain ⟨_, elsewhere⟩ := change_found job.atWork found named
    exact ⟨others _, by simp [holds, Hold.id], by simp [Hold.id, named], elsewhere,
      fun _ _ => Iff.rfl, fun _ _ => Iff.rfl⟩
  | lose holds unknown =>
    exact ⟨others _, by simp [holds, Hold.id], by simp, fun _ _ => rfl, fun _ _ => Iff.rfl,
      fun _ _ => Iff.rfl⟩
  | ask holds =>
    exact ⟨others _, by simp [holds, Hold.id], by simp [Hold.id], fun _ _ => rfl,
      fun _ _ => Iff.rfl, fun _ apart => by simp [apart]⟩
  | @finish _ _ job outcome moment holds =>
    obtain ⟨_, _, found, _⟩ := (places job.id).of_hold (h := .asked job) holds
    obtain ⟨_, elsewhere⟩ := change_found (job.finished outcome moment) found TagJob.finished_id
    exact ⟨others _, by simp [holds, Hold.id], by simp, elsewhere, fun _ _ => Iff.rfl,
      fun _ _ => Iff.rfl⟩
  | abandon holds =>
    exact ⟨others _, by simp [holds, Hold.id], by simp,
      fun _ apart => by simp [find?_abandon, apart], fun _ _ => Iff.rfl, fun _ _ => Iff.rfl⟩

/-- The id that is handled is in some place afterwards as well. -/
theorem Handling.place {l' : Ledger} (handling : Handling limit x id l l') (sound : l.Sound limit)
    (distinct : l'.drawn.Nodup) : l'.Place id := by
  cases handling with
  | @name _ _ job empty blank =>
    have new : job.id ∉ l.drawn := by
      intro member
      exact (List.nodup_append.mp distinct).2.2 _ member _ (by simp) rfl
    obtain ⟨unknown, free, unasked⟩ := sound.undrawn job.id new
    have out : job.id ∉ l.board.queue := by
      cases sound.place job.id with
      | absent _ out _ | held _ _ _ _ _ out _ | final _ _ _ out _ => exact out
      | waiting other found _ _ _ _ => simp [unknown] at found
    exact .held x (.fresh job) (by simp) rfl free.take out ⟨blank, unknown, unasked⟩
  | @drop _ _ job holds =>
    obtain ⟨only, out, _, unknown, _⟩ := (sound.place job.id).of_hold (h := .fresh job) holds
    exact .absent unknown out only.release
  | @record _ _ job holds =>
    obtain ⟨only, out, blank, unknown, unasked⟩ :=
      (sound.place job.id).of_hold (h := .fresh job) holds
    exact .held x (.offered job) (by simp) rfl only.keep out ⟨by simp, blank.1, unasked⟩
  | @accept _ _ job holds room =>
    obtain ⟨only, out, found, pending, unasked⟩ :=
      (sound.place job.id).of_hold (h := .offered job) holds
    exact .waiting job found pending (by simp) only.release unasked
  | @withdraw _ _ job holds =>
    obtain ⟨only, out, _⟩ := (sound.place job.id).of_hold (h := .offered job) holds
    exact .absent (by simp) out only.release
  | @take _ _ _ queue empty next =>
    have inside : id ∈ l.board.queue := by simp [next]
    have out : id ∉ queue := (List.nodup_cons.mp (next ▸ sound.queue)).1
    cases sound.place id with
    | absent _ out _ | held _ _ _ _ _ out _ | final _ _ _ out _ => exact absurd inside out
    | waiting job found pending _ free unasked =>
      exact .held x (.taken id) (by simp) rfl free.take out ⟨job, found, pending, unasked⟩
  | @begin _ w _ job holds found =>
    obtain ⟨only, out, _, _, _, unasked⟩ := (sound.place id).of_hold (h := .taken id) holds
    have named : job.id = id := JobBoard.find?_id found
    obtain ⟨here, _⟩ := change_found job.atWork found named
    exact .held (.worker w) (.begun job.atWork) (by simp) named only.keep out
      ⟨named ▸ here, rfl, named ▸ unasked⟩
  | lose holds unknown =>
    obtain ⟨only, out, _⟩ := (sound.place id).of_hold (h := .taken id) holds
    exact .absent unknown out only.release
  | @ask _ _ job holds =>
    obtain ⟨only, out, found, running, _⟩ := (sound.place job.id).of_hold (h := .begun job) holds
    exact .held x (.asked job) (by simp) rfl only.keep out ⟨found, running⟩
  | @finish _ _ job outcome moment holds =>
    obtain ⟨only, out, found, _⟩ := (sound.place job.id).of_hold (h := .asked job) holds
    obtain ⟨here, _⟩ := change_found (job.finished outcome moment) found TagJob.finished_id
    exact .final _ here TagJob.finished_final out only.release
  | @abandon _ c _ moment holds =>
    obtain ⟨only, out, job, found, pending, _⟩ :=
      (sound.place id).of_hold (h := .taken id) holds
    refine .final (JobBoard.abandon moment job) (by simp [find?_abandon, found]) ?_ out
      only.release
    simp [JobBoard.abandon, pending, TagJob.finished_final]

private theorem Sound.drawn_of_hold {h : Hold} (sound : l.Sound limit) (holds : l.hold x = some h) :
    h.id ∈ l.drawn := by
  by_contra missing
  exact (sound.undrawn h.id missing).2.1 x h holds rfl

private theorem Sound.drawn_of_found {job : TagJob} (sound : l.Sound limit)
    (found : l.board.find? id = some job) : id ∈ l.drawn := by
  by_contra missing
  simp [(sound.undrawn id missing).1] at found

theorem Sound.found_of_queued {id : String} (sound : l.Sound limit) (queued : id ∈ l.board.queue) :
    ∃ job, l.board.find? id = some job ∧ job.status = .pending := by
  cases sound.place id with
  | absent _ out _ | held _ _ _ _ _ out _ | final _ _ _ out _ => exact absurd queued out
  | waiting job found pending _ _ _ => exact ⟨job, found, pending⟩

/-- What is handled was drawn. -/
theorem Handling.drawn {l' : Ledger} (handling : Handling limit x id l l')
    (sound : l.Sound limit) : id ∈ l'.drawn := by
  cases handling with
  | name => exact List.mem_append_right _ (List.mem_singleton_self _)
  | drop holds | record holds | accept holds | withdraw holds | begin holds | lose holds
  | ask holds | finish holds | abandon holds => exact sound.drawn_of_hold holds
  | take empty next =>
    obtain ⟨job, found, _⟩ := sound.found_of_queued (show id ∈ l.board.queue by simp [next])
    exact sound.drawn_of_found found

private theorem Step.drawn_grows {l' : Ledger} (step : Step limit l l') :
    ∃ more, l'.drawn = l.drawn ++ more := by
  cases step with
  | still | expire => exact ⟨[], (List.append_nil _).symm⟩
  | draw id => exact ⟨[id], rfl⟩
  | handle handling =>
    cases handling with
    | @name _ _ job => exact ⟨[job.id], rfl⟩
    | drop | record | accept | withdraw | take | begin | lose | ask | finish | abandon =>
      exact ⟨[], (List.append_nil _).symm⟩

/-- What is forgotten had ended, so that nothing in the queue or in a hand is touched. -/
theorem find?_expire_of_early {job : TagJob} (cutoff : Instant) (ids : l.board.ids.Nodup)
    (found : l.board.find? id = some job) (early : job.status.isFinal = false) :
    (l.board.expire cutoff).2.find? id = l.board.find? id := by
  rw [JobBoard.find?_expire ids, found]
  simp [Option.filter, JobBoard.isExpired, early]

private theorem early_of_pending {job : TagJob} (pending : job.status = .pending) :
    job.status.isFinal = false := by
  rw [pending]
  rfl

private theorem early_of_running {job : TagJob} (running : job.status = .running) :
    job.status.isFinal = false := by
  rw [running]
  rfl

private theorem Sound.place_expire {cutoff : Instant} {gone : List String} (sound : l.Sound limit) :
    Place { l with board := (l.board.expire cutoff).2, expired := gone } id := by
  have place := sound.place id
  cases place with
  | absent unknown out free =>
    exact .absent (by simp [JobBoard.find?_expire sound.ids, unknown]) out free
  | waiting job found pending queued free unasked =>
    have stays := find?_expire_of_early cutoff sound.ids found
      (early_of_pending pending)
    exact .waiting job (stays.trans found) pending queued free unasked
  | final job found ended out free =>
    by_cases old : JobBoard.isExpired cutoff job
    · refine .absent ?_ out free
      simp [JobBoard.find?_expire sound.ids, found, Option.filter, old]
    · refine .final job ?_ ended out free
      simp [JobBoard.find?_expire sound.ids, found, Option.filter, old]
  | held x h holds named only out fits =>
    refine (sound.place id).frame ?_ Iff.rfl (fun _ _ _ => Iff.rfl) Iff.rfl
    subst named
    cases h with
    | fresh job => simp [JobBoard.find?_expire sound.ids, Hold.id, fits.2.1]
    | offered job => exact find?_expire_of_early cutoff sound.ids fits.1 (early_of_pending fits.2.1)
    | taken id =>
      obtain ⟨job, found, pending, _⟩ := fits
      exact find?_expire_of_early cutoff sound.ids found (early_of_pending pending)
    | begun job => exact find?_expire_of_early cutoff sound.ids fits.1 (early_of_running fits.2.1)
    | asked job => exact find?_expire_of_early cutoff sound.ids fits.1 (early_of_running fits.2)

theorem Handling.undrawn {l' : Ledger} (handling : Handling limit x id l l')
    (sound : l.Sound limit) (other : String) (missing : other ∉ l'.drawn) :
    l'.board.find? other = none ∧ l'.Free other ∧ other ∉ l'.asked := by
  have apart : other ≠ id := fun same => missing (same ▸ handling.drawn sound)
  have touches := handling.touches sound.place
  obtain ⟨more, grown⟩ := (Step.handle handling).drawn_grows
  obtain ⟨unknown, free, unasked⟩ :=
    sound.undrawn other (fun member => missing (grown ▸ List.mem_append_left more member))
  refine ⟨(touches.found other apart).trans unknown, ?_, ?_⟩
  · intro y h held named
    exact free y h ((touches.holds_iff apart y h named).mp held) named
  · intro member
    exact unasked ((touches.asked other apart).mp member)

theorem Handling.ids {l' : Ledger} (handling : Handling limit x id l l') (sound : l.Sound limit) :
    l'.board.ids.Nodup := by
  cases handling with
  | name | drop | accept | take | lose | ask => exact sound.ids
  | @record _ _ job holds =>
    obtain ⟨_, _, _, unknown, _⟩ := (sound.place job.id).of_hold (h := .fresh job) holds
    rw [JobBoard.ids_record unknown]
    apply List.nodup_append.mpr ⟨sound.ids, by simp, ?_⟩
    intro known member other single same
    rw [List.mem_singleton.mp single] at same
    exact JobBoard.find?_eq_none.mp unknown (same ▸ member)
  | withdraw holds => exact sound.ids.sublist JobBoard.ids_withdraw
  | @begin _ w _ job holds found =>
    have named : job.id = id := JobBoard.find?_id found
    rw [JobBoard.ids_change fun _ _ => TagJob.atWork_id.trans named]
    exact sound.ids
  | finish holds =>
    rw [JobBoard.ids_change fun _ _ => TagJob.finished_id]
    exact sound.ids
  | abandon holds =>
    rw [JobBoard.ids_change fun _ same => abandon_id.trans same]
    exact sound.ids

theorem Handling.queue {l' : Ledger} (handling : Handling limit x id l l') (sound : l.Sound limit) :
    l'.board.queue.Nodup := by
  cases handling with
  | name | drop | record | withdraw | begin | lose | ask | finish | abandon => exact sound.queue
  | @accept _ _ job holds room =>
    obtain ⟨_, out, _⟩ := (sound.place job.id).of_hold (h := .offered job) holds
    apply List.nodup_append.mpr ⟨sound.queue, by simp, ?_⟩
    intro waiting member other single same
    obtain rfl : waiting = job.id := same.trans (List.mem_singleton.mp single)
    exact out member
  | take empty next => exact (List.nodup_cons.mp (next ▸ sound.queue)).2

theorem Handling.once {l' : Ledger} (handling : Handling limit x id l l') (sound : l.Sound limit) :
    l'.asked.Nodup := by
  cases handling with
  | name | drop | record | accept | withdraw | take | begin | lose | finish | abandon =>
    exact sound.once
  | @ask _ _ job holds =>
    obtain ⟨_, _, _, _, unasked⟩ := (sound.place job.id).of_hold (h := .begun job) holds
    apply List.nodup_append.mpr ⟨sound.once, by simp, ?_⟩
    intro earlier member other single same
    obtain rfl : earlier = job.id := same.trans (List.mem_singleton.mp single)
    exact unasked member

/-- The job that is found under the handled id is shaped as it should be. -/
theorem Handling.shaped {l' : Ledger} (handling : Handling limit x id l l')
    (sound : l.Sound limit) {job : TagJob} (found' : l'.board.find? id = some job) :
    job.Shaped := by
  cases handling with
  | name | drop | accept | take | lose | ask => exact sound.shaped _ job found'
  | @record _ _ fresh holds =>
    obtain ⟨_, _, blank, _⟩ := (sound.place fresh.id).of_hold (h := .fresh fresh) holds
    obtain rfl : fresh = job := by simpa using found'
    exact blank.shaped
  | withdraw holds => simp at found'
  | @begin _ w _ taken holds found =>
    obtain ⟨_, _, other, here, pending, _⟩ := (sound.place id).of_hold (h := .taken id) holds
    obtain rfl : other = taken := Option.some.inj (here.symm.trans found)
    have named : other.id = id := JobBoard.find?_id found
    obtain ⟨running, _⟩ := change_found other.atWork found named
    obtain rfl := Option.some.inj (running.symm.trans found')
    obtain ⟨completed, result, fault⟩ := sound.shaped id other found
    constructor <;> simp_all [TagJob.atWork, JobStatus.isFinal]
  | @finish _ _ asked outcome moment holds =>
    obtain ⟨_, _, found, running⟩ := (sound.place asked.id).of_hold (h := .asked asked) holds
    obtain ⟨here, _⟩ := change_found (asked.finished outcome moment) found TagJob.finished_id
    obtain rfl := Option.some.inj (here.symm.trans found')
    exact (sound.shaped _ _ found).finished (early_of_running running) outcome moment
  | @abandon _ c _ moment holds =>
    obtain ⟨_, _, taken, found, pending, _⟩ := (sound.place id).of_hold (h := .taken id) holds
    obtain rfl : JobBoard.abandon moment taken = job := by
      simpa [find?_abandon, found] using found'
    simp only [JobBoard.abandon, pending, if_true]
    exact (sound.shaped _ _ found).finished (early_of_pending pending) _ moment

theorem Handling.order {l' : Ledger} (handling : Handling limit x id l l') (sound : l.Sound limit) :
    ∃ gone, l'.accepted = gone ++ l'.board.queue := by
  obtain ⟨gone, order⟩ := sound.order
  cases handling with
  | name | drop | record | withdraw | begin | lose | ask | finish | abandon => exact ⟨gone, order⟩
  | accept holds room => exact ⟨gone, by simp [order]⟩
  | take empty next => exact ⟨gone ++ [id], by simp [put, order, next]⟩

theorem Handling.bound {l' : Ledger} (handling : Handling limit x id l l') (sound : l.Sound limit)
    (bounded : 0 < limit) : l'.board.queue.length ≤ limit := by
  have bound := sound.bound bounded
  cases handling with
  | name | drop | record | withdraw | begin | lose | ask | finish | abandon => exact bound
  | accept holds room =>
    have free : (l.board.queue.length : Int) < limit := by
      simpa [JobBoard.isFull, bounded] using room
    simp only [JobBoard.queue_enqueue, List.length_append, List.length_singleton]
    omega
  | @take _ _ _ queue empty next =>
    rw [next, List.length_cons] at bound
    change (queue.length : Int) ≤ limit
    omega

/-- What a step may make of the record under an id. -/
inductive Change (l : Ledger) (id : String) : Option TagJob → Option TagJob → Prop where
  | same {record} : Change l id record record
  | recorded {x job} (holds : l.hold x = some (.fresh job)) (blank : job.Blank)
      (named : job.id = id) : Change l id none (some job)
  | withdrawn {x job} (holds : l.hold x = some (.offered job)) (pending : job.status = .pending)
      (named : job.id = id) : Change l id (some job) none
  | begun {w job} (holds : l.hold (.worker w) = some (.taken id)) (pending : job.status = .pending) :
      Change l id (some job) (some job.atWork)
  | finished {x job outcome moment} (holds : l.hold x = some (.asked job))
      (running : job.status = .running) (named : job.id = id) :
      Change l id (some job) (some (job.finished outcome moment))
  | abandoned {c job moment} (holds : l.hold (.client c) = some (.taken id))
      (pending : job.status = .pending) :
      Change l id (some job) (some (job.finished (.error JobBoard.stopped) moment))
  | forgotten {job} (ended : job.status.isFinal = true) : Change l id (some job) none

theorem Handling.change {l' : Ledger} (handling : Handling limit x id l l')
    (sound : l.Sound limit) : l.Change id (l.board.find? id) (l'.board.find? id) := by
  cases handling with
  | name | drop | accept | take | lose | ask => exact .same
  | @record _ _ job holds =>
    obtain ⟨_, _, blank, unknown, _⟩ := (sound.place job.id).of_hold (h := .fresh job) holds
    simp only [unknown, JobBoard.find?_record, if_true]
    exact .recorded holds blank rfl
  | @withdraw _ _ job holds =>
    obtain ⟨_, _, found, pending, _⟩ := (sound.place job.id).of_hold (h := .offered job) holds
    simp only [found, JobBoard.find?_withdraw, if_true]
    exact .withdrawn holds pending rfl
  | @begin _ w _ job holds found =>
    obtain ⟨_, _, other, here, pending, _⟩ := (sound.place id).of_hold (h := .taken id) holds
    obtain rfl : other = job := Option.some.inj (here.symm.trans found)
    have named : other.id = id := JobBoard.find?_id found
    obtain ⟨running, _⟩ := change_found other.atWork found named
    simp only [found, running]
    exact .begun holds pending
  | @finish _ _ job outcome moment holds =>
    obtain ⟨_, _, found, running⟩ := (sound.place job.id).of_hold (h := .asked job) holds
    obtain ⟨here, _⟩ := change_found (job.finished outcome moment) found TagJob.finished_id
    simp only [found, here]
    exact .finished holds running rfl
  | @abandon _ c _ moment holds =>
    obtain ⟨_, _, job, found, pending, _⟩ := (sound.place id).of_hold (h := .taken id) holds
    simp only [find?_abandon, found, if_true, Option.map_some, JobBoard.abandon, pending]
    exact .abandoned holds pending

/-- Every record goes on as it may, whatever the step is about. -/
theorem Step.change {l' : Ledger} (step : Step limit l l') (sound : l.Sound limit) (id : String) :
    l.Change id (l.board.find? id) (l'.board.find? id) := by
  cases step with
  | still | draw => exact .same
  | @handle _ x handled handling =>
    by_cases same : id = handled
    · exact same ▸ handling.change sound
    · rw [(handling.touches sound.place).found id same]
      exact .same
  | @expire cutoff =>
    simp only [JobBoard.find?_expire sound.ids]
    cases found : l.board.find? id with
    | none => exact .same
    | some job =>
      by_cases old : JobBoard.isExpired cutoff job
      · have ended : job.status.isFinal = true := (Bool.and_eq_true_iff.mp old).1
        simpa [Option.filter, old] using Change.forgotten ended
      · simpa [Option.filter, old] using Change.same

/-- A step keeps everything in order, as long as no id is drawn twice. -/
theorem Step.sound {l' : Ledger} (step : Step limit l l') (sound : l.Sound limit)
    (distinct : l'.drawn.Nodup) : l'.Sound limit := by
  cases step with
  | still => exact sound
  | draw id =>
    refine { sound with place := ?_, undrawn := ?_ }
    · intro id
      exact (sound.place id).frame rfl Iff.rfl (fun _ _ _ => Iff.rfl) Iff.rfl
    · intro other missing
      exact sound.undrawn other fun member =>
        missing (List.mem_append_left _ member)
  | @handle _ x id handling =>
    have touches := handling.touches sound.place
    refine ⟨touches.place sound.place (handling.place sound distinct), handling.undrawn sound,
      handling.ids sound, handling.queue sound, handling.once sound, ?_, handling.order sound,
      handling.bound sound⟩
    intro other job found
    by_cases same : other = id
    · exact handling.shaped sound (same ▸ found)
    · exact sound.shaped other job ((touches.found other same).symm.trans found)
  | @expire cutoff =>
    refine ⟨fun _ => sound.place_expire, ?_, sound.ids.sublist JobBoard.ids_expire, sound.queue,
      sound.once, ?_, sound.order, sound.bound⟩
    · intro other missing
      obtain ⟨unknown, free, unasked⟩ := sound.undrawn other missing
      exact ⟨by simp [JobBoard.find?_expire sound.ids, unknown], free, unasked⟩
    · intro other job found
      rw [JobBoard.find?_expire sound.ids] at found
      exact sound.shaped other job (Option.eq_some_of_filter_eq_some found)

/-! ### Settled ids -/

/-- Nothing will be done under an id any more: it was drawn, and is neither queued nor in a hand. -/
structure Settled (l : Ledger) (id : String) : Prop where
  drawn : id ∈ l.drawn
  free : l.Free id
  out : id ∉ l.board.queue

theorem Sound.settled {job : TagJob} (sound : l.Sound limit) (found : l.board.find? id = some job)
    (ended : job.status.isFinal = true) : l.Settled id := by
  have drawn := sound.drawn_of_found found
  have same {other : TagJob} (here : l.board.find? id = some other) : other = job :=
    Option.some.inj (here.symm.trans found)
  cases sound.place id with
  | absent unknown out free => exact ⟨drawn, free, out⟩
  | final _ _ _ out free => exact ⟨drawn, free, out⟩
  | waiting other here pending =>
    obtain rfl := same here
    simp [early_of_pending pending] at ended
  | held x h holds named only out fits =>
    subst named
    cases h with
    | fresh other => exact nomatch fits.2.1.symm.trans found
    | offered other =>
      obtain rfl := same fits.1
      simp [early_of_pending fits.2.1] at ended
    | taken other =>
      obtain ⟨waiting, here, pending, _⟩ := fits
      obtain rfl := same here
      simp [early_of_pending pending] at ended
    | begun other =>
      obtain rfl := same fits.1
      simp [early_of_running fits.2.1] at ended
    | asked other =>
      obtain rfl := same fits.1
      simp [early_of_running fits.2] at ended

theorem Handling.unsettled {l' : Ledger} (handling : Handling limit x id l l')
    (distinct : l'.drawn.Nodup) : ¬ l.Settled id := by
  intro settled
  cases handling with
  | name => exact (List.nodup_append.mp distinct).2.2 _ settled.drawn _ (by simp) rfl
  | drop holds | record holds | accept holds | withdraw holds | begin holds | lose holds
  | ask holds | finish holds | abandon holds => exact settled.free _ _ holds rfl
  | take empty next => exact settled.out (by simp [next])

/-- What is settled stays so, and its record is not changed again but may be forgotten. -/
theorem Step.settled {l' : Ledger} (step : Step limit l l') (sound : l.Sound limit)
    (distinct : l'.drawn.Nodup) (settled : l.Settled id) :
    l'.Settled id ∧
      (l'.board.find? id = l.board.find? id ∨ l'.board.find? id = none) := by
  cases step with
  | still => exact ⟨settled, .inl rfl⟩
  | draw => exact ⟨{ settled with drawn := List.mem_append_left _ settled.drawn }, .inl rfl⟩
  | @handle _ x other handling =>
    by_cases same : id = other
    · exact absurd (same ▸ settled) (handling.unsettled distinct)
    · have touches := handling.touches sound.place
      obtain ⟨more, grown⟩ := (Step.handle handling).drawn_grows
      refine ⟨⟨grown ▸ List.mem_append_left more settled.drawn, ?_, ?_⟩,
        .inl (touches.found id same)⟩
      · intro y h held named
        exact settled.free y h ((touches.holds_iff same y h named).mp held) named
      · intro member
        exact settled.out ((touches.queued id same).mp member)
  | expire =>
    refine ⟨{ settled with }, ?_⟩
    simp only [JobBoard.find?_expire sound.ids]
    cases l.board.find? id with
    | none => exact .inl rfl
    | some job =>
      simp only [Option.filter]
      split
      · exact .inl rfl
      · exact .inr rfl

/-! ### Runs -/

/-- One ledger comes out of another after any number of steps. -/
abbrev Run (limit : Int) : Ledger → Ledger → Prop := Relation.ReflTransGen (Step limit)

theorem Step.distinct_before {l' : Ledger} (step : Step limit l l') (distinct : l'.drawn.Nodup) :
    l.drawn.Nodup := by
  obtain ⟨more, grown⟩ := step.drawn_grows
  exact (grown ▸ distinct).of_append_left

/-- Everything stays in order, as long as no id is drawn twice. -/
theorem Run.sound {l' : Ledger} (run : Run limit l l') (sound : l.Sound limit)
    (distinct : l'.drawn.Nodup) : l'.Sound limit := by
  induction run with
  | refl => exact sound
  | tail _ step ih => exact step.sound (ih (step.distinct_before distinct)) distinct

/-- What is settled stays so to the end of a run. -/
theorem Run.settled {l' : Ledger} (run : Run limit l l') (sound : l.Sound limit)
    (distinct : l'.drawn.Nodup) (settled : l.Settled id) :
    l'.Settled id ∧
      (l'.board.find? id = l.board.find? id ∨ l'.board.find? id = none) := by
  induction run with
  | refl => exact ⟨settled, .inl rfl⟩
  | tail run step ih =>
    have before := step.distinct_before distinct
    obtain ⟨still, kept⟩ := ih before
    obtain ⟨after, kept'⟩ := step.settled (Run.sound run sound before) distinct still
    refine ⟨after, ?_⟩
    rcases kept' with same | gone
    · rcases kept with earlier | gone
      · exact .inl (same.trans earlier)
      · exact .inr (same.trans gone)
    · exact .inr gone

end Ledger

end MemoAssist

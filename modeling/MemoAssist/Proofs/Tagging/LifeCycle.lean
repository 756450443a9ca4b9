import MemoAssist.Proofs.Tagging.Custody
import MemoAssist.Proofs.Tagging.Steady

/-! The life of a job in the office. Every step of anybody is, for the jobs, one step of custody; so
whatever the order of steps, each job is in one place, is asked for at most once, and goes from
waiting over running to its end. -/
namespace MemoAssist

variable {τ κ β : Type}

def Errand.hold? : Errand τ → Option Hold
  | .call _ (.ready job) | .call _ (.rechecking job) | .call _ (.recording job) =>
    some (.fresh job)
  | .call _ (.offering job) | .call _ (.withdrawing job) => some (.offered job)
  | .stop (.failing id) => some (.taken id)
  | _ => none

def Shift.hold? : Shift κ → Option Hold
  | .holding id => some (.taken id)
  | .started job _ | .scoped job _ => some (.begun job)
  | .awaiting job _ | .caching job _ | .publishing job _ => some (.asked job)
  | _ => none

namespace Happening

def drawn? : Happening τ κ → Option String
  | .drew id => some id
  | _ => none

def accepted? : Happening τ κ → Option String
  | .accepted id => some id
  | _ => none

def begun? : Happening τ κ → Option String
  | .begun id => some id
  | _ => none

/-- The job for which the backend was asked. -/
def askedFor? : Happening τ κ → Option String
  | .asked (.worker _ id) _ _ => some id
  | _ => none

def published? : Happening τ κ → Option (String × Except Fault SuggestTagsResponse)
  | .published id outcome => some (id, outcome)
  | _ => none

def expiredIds : Happening τ κ → List String
  | .expired ids => ids
  | _ => []

end Happening

/-- The ledger after an entry in the log. -/
def Ledger.notice (l : Ledger) : Happening τ κ → Ledger
  | .drew id => { l with drawn := l.drawn ++ [id] }
  | .accepted id => { l with accepted := l.accepted ++ [id] }
  | .begun id => { l with begun := l.begun ++ [id] }
  | .asked (.worker _ id) _ _ => { l with asked := l.asked ++ [id] }
  | .published id outcome => { l with published := l.published ++ [(id, outcome)] }
  | .expired ids => { l with expired := l.expired ++ ids }
  | _ => l

namespace Office

def hold (o : Office τ κ β) : Holder → Option Hold
  | .client c => (o.clients c).hold?
  | .worker w => (o.workers w).hold?

/-- What the office knows of its jobs. -/
def ledger (o : Office τ κ β) : Ledger where
  board := o.board
  hold := o.hold
  drawn := o.log.filterMap Happening.drawn?
  accepted := o.log.filterMap Happening.accepted?
  begun := o.log.filterMap Happening.begun?
  asked := o.log.filterMap Happening.askedFor?
  published := o.log.filterMap Happening.published?
  expired := o.log.flatMap Happening.expiredIds

variable {o : Office τ κ β} {c w : Nat}

private theorem hold_client {errand : Errand τ} :
    (o.client c errand).hold = Function.update o.hold (.client c) errand.hold? := by
  funext x
  cases x with
  | client d =>
    by_cases same : d = c
    · simp [hold, client, same]
    · have apart : Holder.client d ≠ .client c := fun turned => same (Holder.client.inj turned)
      simp [hold, client, Function.update_of_ne same, Function.update_of_ne apart]
  | worker w => simp [hold, client]

private theorem hold_worker {shift : Shift κ} :
    (o.worker w shift).hold = Function.update o.hold (.worker w) shift.hold? := by
  funext x
  cases x with
  | client c => simp [hold, worker]
  | worker v =>
    by_cases same : v = w
    · simp [hold, worker, same]
    · have apart : Holder.worker v ≠ .worker w := fun turned => same (Holder.worker.inj turned)
      simp [hold, worker, Function.update_of_ne same, Function.update_of_ne apart]

theorem ledger_client {errand : Errand τ} :
    (o.client c errand).ledger = o.ledger.put (.client c) errand.hold? := by
  simp only [ledger, Ledger.put, hold_client]
  rfl

theorem ledger_worker {shift : Shift κ} :
    (o.worker w shift).ledger = o.ledger.put (.worker w) shift.hold? := by
  simp only [ledger, Ledger.put, hold_worker]
  rfl

@[simp] theorem board_note {entry : Happening τ κ} : (o.note entry).board = o.board := rfl

@[simp] theorem hold_note {entry : Happening τ κ} : (o.note entry).hold = o.hold := rfl

theorem ledger_note {entry : Happening τ κ} :
    (o.note entry).ledger = o.ledger.notice entry := by
  simp only [ledger, log_note, board_note, hold_note, List.filterMap_append, List.flatMap_append]
  cases entry with
  | asked asker =>
    cases asker <;> simp [Ledger.notice, Happening.drawn?, Happening.accepted?, Happening.begun?,
      Happening.askedFor?, Happening.published?, Happening.expiredIds]
  | _ =>
    simp [Ledger.notice, Happening.drawn?, Happening.accepted?, Happening.begun?,
      Happening.askedFor?, Happening.published?, Happening.expiredIds]

theorem ledger_after {α : Type} {work : Room.Work τ κ β α} :
    (o.after work).ledger = { o.ledger with board := (work o.room).2.tagger.board } := rfl

/-- Work that leaves the board alone leaves the ledger alone. -/
theorem ledger_after_same {α : Type} {work : Room.Work τ κ β α}
    (same : (work o.room).2.tagger.board = o.room.tagger.board) :
    (o.after work).ledger = o.ledger := by
  rw [ledger_after, same]
  rfl

end Office

/-- Somebody who has the same in hand afterwards changes nothing. -/
theorem Ledger.put_same {l : Ledger} {x : Holder} {h : Option Hold} (same : l.hold x = h) :
    l.put x h = l := by
  subst same
  simp only [Ledger.put, Function.update_eq_self]

theorem Ledger.Step.same {limit : Int} {l : Ledger} {x : Holder} {h : Option Hold}
    (same : l.hold x = h) : Ledger.Step limit l (l.put x h) := by
  rw [Ledger.put_same same]
  exact .still

namespace Office

variable {o o' : Office τ κ β} {c w : Nat}

theorem ledger_reply {d : Demand} {outcome : Except Fault Answer} :
    (o.reply c d outcome).ledger = o.ledger.put (.client c) none := by
  rw [reply, ledger_note, ledger_client]
  rfl

/-! ### Jobs that wait -/

/-- Who may have a waiting job in hand: a client between recording it and the end of the offer,
or whoever took it out of the queue last. -/
inductive InHand (o : Office τ κ β) (id : String) : Holder → Prop where
  | offered {c d job} (stage : o.clients c = .call d (.offering job)) (named : job.id = id) :
      InHand o id (.client c)
  | refused {c d job} (stage : o.clients c = .call d (.withdrawing job)) (named : job.id = id) :
      InHand o id (.client c)
  | fetched {w : Nat} (stage : o.workers w = .holding id) : InHand o id (.worker w)
  | drained {c : Nat} (stage : o.clients c = .stop (.failing id)) : InHand o id (.client c)

private theorem inHand_taken {x : Holder} {id : String} (held : o.hold x = some (.taken id)) :
    o.InHand id x := by
  cases x with
  | client c =>
    cases stage : o.clients c with
    | idle => simp [hold, stage, Errand.hold?] at held
    | call d s => cases s <;> simp [hold, stage, Errand.hold?] at held
    | stop s =>
      cases s with
      | failing other =>
        obtain rfl : other = id := by simpa [hold, stage, Errand.hold?] using held
        exact .drained stage
      | _ => simp [hold, stage, Errand.hold?] at held
  | worker w =>
    cases stage : o.workers w with
    | holding other =>
      obtain rfl : other = id := by simpa [hold, stage, Shift.hold?] using held
      exact .fetched stage
    | _ => simp [hold, stage, Shift.hold?] at held

private theorem inHand_offered {x : Holder} {job : TagJob} (held : o.hold x = some (.offered job)) :
    o.InHand job.id x := by
  cases x with
  | client c =>
    cases stage : o.clients c with
    | idle => simp [hold, stage, Errand.hold?] at held
    | stop s => cases s <;> simp [hold, stage, Errand.hold?] at held
    | call d s =>
      cases s with
      | offering other =>
        obtain rfl : other = job := by simpa [hold, stage, Errand.hold?] using held
        exact .offered stage rfl
      | withdrawing other =>
        obtain rfl : other = job := by simpa [hold, stage, Errand.hold?] using held
        exact .refused stage rfl
      | _ => simp [hold, stage, Errand.hold?] at held
  | worker w => cases stage : o.workers w <;> simp [hold, stage, Shift.hold?] at held

/-- A job that waits is in the queue or in one hand. -/
theorem place_of_pending {limit : Int} {job : TagJob} (sound : o.ledger.Sound limit)
    (member : job ∈ o.board.jobs) (pending : job.status = .pending) :
    (job.id ∈ o.board.queue ∧ ∀ x h, o.hold x = some h → h.id ≠ job.id) ∨
      (job.id ∉ o.board.queue ∧
        ∃ x, o.InHand job.id x ∧ ∀ y h, o.hold y = some h → h.id = job.id → y = x) := by
  have found := JobBoard.find?_of_mem sound.ids member
  rcases (sound.place job.id).of_pending found pending with ⟨queued, free⟩ | ⟨out, x, only, holds⟩
  · exact .inl ⟨queued, free⟩
  · refine .inr ⟨out, x, ?_, only⟩
    rcases holds with offered | taken
    · exact inHand_offered offered
    · exact inHand_taken taken

private theorem drain_of_change {old new : TagJob} {id : String}
    (change : o.ledger.Change id (some old) (some new)) (pending : old.status = .pending)
    (failed : new.status = .failed) : ∃ c, o.clients c = .stop (.failing id) := by
  cases change with
  | same => simp [pending] at failed
  | begun => simp [TagJob.atWork] at failed
  | finished _ running => simp [pending] at running
  | @abandoned c _ _ holds =>
    have held : o.hold (.client c) = some (.taken id) := holds
    cases inHand_taken held with
    | offered stage => simp [hold, stage, Errand.hold?] at held
    | refused stage => simp [hold, stage, Errand.hold?] at held
    | drained stage => exact ⟨c, stage⟩

/-! ### Every step -/

private theorem ids_distinct_before (steady : o.Steady o')
    (distinct : (o'.log.filterMap Happening.drawn?).Nodup) :
    (o.log.filterMap Happening.drawn?).Nodup := by
  obtain ⟨more, grown⟩ := steady.log
  rw [← grown, List.filterMap_append] at distinct
  exact (List.nodup_append.mp distinct).1

variable [TimeScale τ]

theorem ledger_after_job {d : Demand} {memo : Int} : (o.after (d.job memo)).ledger = o.ledger := by
  obtain ⟨entropy, drawn⟩ := Tagging.newJob_room o.room d.user memo d.content d.existing
  exact ledger_after_same (congrArg (fun room => room.tagger.board) drawn)

theorem ledger_after_grant {now : τ} {user : Int} :
    (o.after (Tagging.grantAt now user)).ledger = o.ledger := by
  obtain ⟨quota, granted⟩ := Tagging.grantAt_room o.room now user
  exact ledger_after_same (congrArg (fun room => room.tagger.board) granted)

/-- What a client does with a demand, as it is seen in the ledger. -/
theorem CallStep.ledger {d : Demand} {stage : CallStage τ} (step : CallStep c d stage o o')
    (here : o.clients c = .call d stage) :
    Ledger.Step o.tagger.config.queueLimit o.ledger o'.ledger := by
  have holds : o.ledger.hold (.client c) = (Errand.call d stage).hold? := congrArg Errand.hold? here
  cases step with
  | enter | read | proceed | lock | full | openInner =>
    rw [ledger_client]
    exact .same holds
  | barred | serve | leave | report =>
    rw [ledger_reply]
    exact .same holds
  | grant =>
    rw [ledger_client, ledger_after_grant]
    exact .same holds
  | overQuota =>
    rw [ledger_reply, ledger_after_grant]
    exact .same holds
  | hit | miss | ask | answer | keep =>
    rw [ledger_client, ledger_note]
    exact .same holds
  | fail =>
    rw [ledger_reply, ledger_note]
    exact .same holds
  | @serveJob _ memo tags job later named =>
    have empty : (o.ledger.notice (.drew job.id : Happening τ κ)).hold (.client c) = none := holds
    rw [ledger_reply, ledger_note, ledger_after_job, Ledger.put_same empty]
    exact .draw job.id
  | unserved | unnamed =>
    rw [ledger_reply, ledger_after_job]
    exact .same holds
  | @name _ memo job later named =>
    rw [ledger_client, ledger_note, ledger_after_job]
    obtain ⟨id, created, rfl⟩ := Tagging.newJob_ok named
    exact .handle (.name holds ⟨rfl, rfl, rfl, rfl⟩)
  | tooLate =>
    rw [ledger_client]
    exact .handle (.drop holds)
  | record =>
    rw [ledger_client]
    exact .handle (.record holds)
  | accept queued =>
    rw [ledger_client, ledger_note]
    have room := Tagging.offer_ok.mp queued
    rw [ledger_after, Tagging.offer_room _ room]
    exact .handle (.accept holds room)
  | withdraw =>
    rw [ledger_client]
    exact .handle (.withdraw holds)

/-- What a client does to stop the work, as it is seen in the ledger. -/
theorem StopStep.ledger {stage : StopStage} (step : StopStep c stage o o')
    (here : o.clients c = .stop stage) :
    Ledger.Step o.tagger.config.queueLimit o.ledger o'.ledger := by
  have holds : o.ledger.hold (.client c) = (Errand.stop (τ := τ) stage).hold? :=
    congrArg Errand.hold? here
  cases step with
  | lock | close | late | goOn | goBack | signal | join | joined | drained =>
    rw [ledger_client]
    exact .same holds
  | cancel | report =>
    rw [ledger_client, ledger_note]
    exact .same holds
  | take found =>
    obtain ⟨queue, next, taken⟩ := Tagging.takeWaiting_some found
    rw [ledger_client, ledger_after, taken]
    exact .handle (.take holds next)
  | fail =>
    rw [ledger_client, ledger_note]
    exact .handle (.abandon holds)

/-- What a worker does, as it is seen in the ledger. -/
theorem ShiftStep.ledger {shift : Shift κ} (step : ShiftStep w shift o o')
    (here : o.workers w = shift) :
    Ledger.Step o.tagger.config.queueLimit o.ledger o'.ledger := by
  have holds : o.ledger.hold (.worker w) = shift.hold? := congrArg Shift.hold? here
  cases step with
  | look | go | rest | openInner | keepStill =>
    rw [ledger_worker]
    exact .same holds
  | answer | fail | keep | tell =>
    rw [ledger_worker, ledger_note]
    exact .same holds
  | fetch found =>
    obtain ⟨queue, next, taken⟩ := Tagging.takeWaiting_some found
    rw [ledger_worker, ledger_after, taken]
    exact .handle (.take holds next)
  | start found =>
    obtain ⟨old, known, rfl, _, begun⟩ := Tagging.beginJob_some found
    rw [ledger_worker, ledger_note, ledger_after, begun]
    exact .handle (.begin holds known)
  | unknown absent =>
    rw [ledger_worker]
    exact .handle (.lose holds (Tagging.beginJob_none.mp absent))
  | ask =>
    rw [ledger_worker, ledger_note]
    exact .handle (.ask holds)
  | publish =>
    rw [ledger_worker, ledger_note]
    exact .handle (.finish holds)

theorem AsideStep.ledger (step : AsideStep o o') :
    Ledger.Step o.tagger.config.queueLimit o.ledger o'.ledger := by
  cases step with
  | @call c d free =>
    have holds : o.ledger.hold (.client c) = none := congrArg Errand.hold? free
    rw [ledger_client, ledger_note]
    exact .same holds
  | @stop c free =>
    have holds : o.ledger.hold (.client c) = none := congrArg Errand.hold? free
    rw [ledger_client]
    exact .same holds
  | look | clear =>
    rw [ledger_note]
    exact .still
  | setCallback | partner => exact .still
  | elsewhere | release => exact .still
  | tidy =>
    rw [ledger_note]
    exact .expire

/-- For the jobs, every step of anybody is a step of custody. -/
theorem Step.ledger (step : Step o o') :
    Ledger.Step o.tagger.config.queueLimit o.ledger o'.ledger := by
  cases step with
  | call here step => exact step.ledger here
  | stop here step => exact step.ledger here
  | shift here step => exact step.ledger here
  | aside step => exact step.ledger

/-! ### Runs -/

theorem Leads.ledger (leads : Leads o o') :
    Ledger.Run o.tagger.config.queueLimit o.ledger o'.ledger := by
  induction leads with
  | refl => exact .refl
  | tail leads step ih => exact ih.tail (Leads.steady leads |>.config ▸ step.ledger)

variable {config : TaggingConfig τ} {world : World τ} {partner : β} {crew : Nat}

private theorem ledger_start :
    (start config world partner crew : Office τ κ β).ledger = Ledger.blank := by
  have idle : (start config world partner crew : Office τ κ β).hold = fun _ => none := by
    funext x
    cases x with
    | client c => rfl
    | worker w =>
      simp only [hold, start]
      split <;> rfl
  simp only [ledger, idle]
  rfl

theorem ledger_of_start (leads : Leads (start config world partner crew) o) :
    Ledger.Run config.queueLimit Ledger.blank o.ledger := by
  have run := leads.ledger
  rwa [ledger_start] at run

/-- The ledger of an office that came out of a fresh one is sound. -/
theorem sound_of_start (leads : Leads (start config world partner crew) o)
    (distinct : (o.log.filterMap Happening.drawn?).Nodup) :
    o.ledger.Sound o.tagger.config.queueLimit := by
  rw [(Leads.steady leads).config]
  exact Ledger.Run.sound (ledger_of_start leads) Ledger.blank_sound distinct

/-! ### The life cycle -/

/-- What holds of the jobs of an office, and of the steps that led to it. -/
structure LifeCycle (first o : Office τ κ β) : Prop where
  /-- A job that waits is queued and in no hand, or not queued and in one hand. -/
  waiting : ∀ job ∈ o.board.jobs, job.status = .pending →
    (job.id ∈ o.board.queue ∧ ∀ x h, o.hold x = some h → h.id ≠ job.id) ∨
      (job.id ∉ o.board.queue ∧
        ∃ x, o.InHand job.id x ∧ ∀ y h, o.hold y = some h → h.id = job.id → y = x)
  queued : ∀ id ∈ o.board.queue, ∃ job ∈ o.board.jobs, job.id = id ∧ job.status = .pending
  distinct : o.board.queue.Nodup
  /-- The queue holds the ids accepted last, in the order in which they were accepted. -/
  order : o.board.queue <:+ o.log.filterMap Happening.accepted?
  bound : 0 < o.tagger.config.queueLimit → o.board.queue.length ≤ o.tagger.config.queueLimit
  /-- The backend is asked for a job at most once. -/
  once : (o.log.filterMap Happening.askedFor?).Nodup
  shaped : ∀ job ∈ o.board.jobs, job.Shaped
  ids : o.board.ids.Nodup
  moves : ∀ before after, Leads first before → Step before after → Leads after o → ∀ id,
    before.ledger.Change id (before.board.find? id) (after.board.find? id)
  /-- Only who drains the queue fails a job that waits. -/
  drain : ∀ before after, Leads first before → Step before after → Leads after o → ∀ old new,
    before.board.find? old.id = some old → old.status = .pending →
    after.board.find? old.id = some new → new.status = .failed →
    ∃ c, before.clients c = .stop (.failing old.id)
  /-- The record of a job at its end is never changed again, but may be forgotten. -/
  final : ∀ before, Leads first before → Leads before o → ∀ job,
    before.board.find? job.id = some job → job.status.isFinal = true →
    o.board.find? job.id = some job ∨ o.board.find? job.id = none

/-- Whatever the order of steps, jobs keep to their life cycle, as long as no id is drawn twice. -/
theorem lifeCycle (leads : Leads (start config world partner crew) o)
    (distinct : (o.log.filterMap Happening.drawn?).Nodup) :
    LifeCycle (start config world partner crew) o := by
  have before {middle : Office τ κ β} (rest : Leads middle o) :
      (middle.log.filterMap Happening.drawn?).Nodup := ids_distinct_before (Leads.steady rest) distinct
  have moves (first last : Office τ κ β) (start : Leads (start config world partner crew) first)
      (step : Step first last) (rest : Leads last o) (id : String) :
      first.ledger.Change id (first.board.find? id) (last.board.find? id) :=
    step.ledger.change (sound_of_start start (before (.head step rest))) id
  have sound := sound_of_start leads distinct
  refine ⟨fun job => place_of_pending sound, ?_, sound.queue, ?_, sound.bound, sound.once, ?_,
    sound.ids, moves, ?_, ?_⟩
  · intro id queued
    obtain ⟨job, found, pending⟩ := sound.found_of_queued queued
    exact ⟨job, JobBoard.find?_mem found, JobBoard.find?_id found, pending⟩
  · obtain ⟨gone, order⟩ := sound.order
    exact ⟨gone, order.symm⟩
  · intro job member
    exact sound.shaped job.id job (JobBoard.find?_of_mem sound.ids member)
  · intro first last start step rest old new found pending found' failed
    have change := moves first last start step rest old.id
    rw [found, found'] at change
    exact drain_of_change change pending failed
  · intro middle start rest job found ended
    have early := sound_of_start start (before rest)
    obtain ⟨_, kept⟩ := Ledger.Run.settled (Leads.ledger rest) early distinct
      (early.settled found ended)
    exact found ▸ kept

/-- A client hands in a job, and it is accepted. -/
theorem lifeCycle_of_accepted : ∃ (o : Office Int Unit Unit) (id : String),
    o.log.filterMap Happening.accepted? = [id] ∧
      LifeCycle (start .usual (World.start (Client.ofReplies [])) () 1) o := by
  let d : Demand := ⟨1, "a memo", [], .later 1⟩
  have run : ∃ (o : Office Int Unit Unit) (id : String),
      Leads (start .usual (World.start (Client.ofReplies [])) () 1) o ∧
        o.log.filterMap Happening.drawn? = [id] ∧ o.log.filterMap Happening.accepted? = [id] :=
    ⟨_, _, .tail (.tail (.tail (.tail (.tail (.tail (.tail (.tail (.tail (.tail (.tail .refl
      (.aside (.call (c := 0) (d := d) rfl)))
      (.call clients_client (.enter rfl)))
      (.call clients_client .read))
      (.call clients_client (.grant rfl)))
      (.call clients_client (.miss rfl)))
      (.call clients_client (.name rfl rfl)))
      (.call clients_client (.lock rfl)))
      (.call clients_client (.proceed rfl)))
      (.call clients_client .record))
      (.call clients_client (.accept rfl)))
      (.call clients_client .leave), rfl, rfl⟩
  obtain ⟨o, id, leads, drawn, accepted⟩ := run
  exact ⟨o, id, accepted, lifeCycle leads (drawn ▸ List.nodup_singleton id)⟩

end Office

end MemoAssist

import MemoAssist.Proofs.Tagging.Steady

/-! The lock at the door and the end of the work. Jobs are handed in and the work is stopped under
the lock, so that nobody hands in a job once the work is stopped; and one client alone empties the
queue, after all workers have left. -/
namespace MemoAssist

variable {τ κ β : Type}

namespace Errand

/-- Under the lock at the door. -/
def inside : Errand τ → Bool
  | .call _ (.rechecking _) | .call _ (.recording _) | .call _ (.offering _)
  | .call _ (.withdrawing _) | .call _ (.leaving _) | .stop .closing | .stop (.unlocking _) => true
  | _ => false

/-- Admitted with a job that is not accepted yet. -/
def handing : Errand τ → Bool
  | .call _ (.recording _) | .call _ (.offering _) | .call _ (.withdrawing _) => true
  | _ => false

/-- On the way of whoever closed the work. -/
def closed : Errand τ → Bool
  | .stop (.unlocking closed) => closed
  | .stop .signalling | .stop .cancelling | .stop (.joining _) | .stop .draining
  | .stop (.failing _) | .stop .reporting => true
  | _ => false

/-- The workers up to here were waited for. -/
def joined (crew : Nat) : Errand τ → Nat
  | .stop (.joining next) => next
  | .stop .draining | .stop (.failing _) | .stop .reporting => crew
  | _ => 0

/-- The queue was seen empty. -/
def emptied : Errand τ → Bool
  | .stop .reporting => true
  | _ => false

private theorem inside_of_handing {errand : Errand τ} (hands : errand.handing = true) :
    errand.inside = true := by
  cases errand with
  | idle | stop => cases hands
  | call d stage => cases stage <;> first | rfl | cases hands

private theorem closed_of_emptied {errand : Errand τ} (emptied : errand.emptied = true) :
    errand.closed = true := by
  cases errand with
  | idle | call => cases emptied
  | stop stage => cases stage <;> first | rfl | cases emptied

end Errand

namespace Office

/-- What holds of the lock and of the end of the work at all times. -/
structure Guarded (o : Office τ κ β) : Prop where
  door : ∀ c, (o.clients c).inside = true → o.door = some c
  handing : ∀ c, (o.clients c).handing = true → o.tagger.stopped = false
  closed : ∀ c, (o.clients c).closed = true → o.tagger.stopped = true ∧ .stopped ∉ o.log
  sole : ∀ c c', (o.clients c).closed = true → (o.clients c').closed = true → c = c'
  joined : ∀ c w, w < (o.clients c).joined o.crew → o.workers w = .gone
  emptied : ∀ c, (o.clients c).emptied = true → o.board.queue = []
  crew : ∀ w, o.crew ≤ w → o.workers w = .gone
  halted : .stopped ∈ o.log → o.tagger.stopped = true ∧ (∀ w, o.workers w = .gone) ∧ o.board.queue = []

variable {o o' : Office τ κ β} {c w : Nat}

/-- A step that the end of the work does not depend on. -/
structure Quiet (o o' : Office τ κ β) : Prop where
  stopped : o'.tagger.stopped = o.tagger.stopped
  crew : o'.crew = o.crew
  gone : ∀ w, o.workers w = .gone → o'.workers w = .gone
  queue : o.tagger.stopped = true → o.board.queue = [] → o'.board.queue = []
  log : .stopped ∈ o'.log → .stopped ∈ o.log

/-- What a step of a client may do to the lock. -/
inductive Passes (c : Nat) (old new : Errand τ) (door door' : Option Nat) : Prop where
  | still (same : door' = door) (inside : new.inside = true → old.inside = true)
  | locks (free : door = none) (locked : door' = some c)
  | unlocks (inside : old.inside = true) (freed : door' = none) (outside : new.inside = false)

theorem Guarded.quiet (guarded : o.Guarded) (quiet : Quiet o o') (clients : o'.clients = o.clients)
    (door : o'.door = o.door) : o'.Guarded where
  door c inside := door.trans (guarded.door c (clients ▸ inside))
  handing c handing := quiet.stopped.trans (guarded.handing c (clients ▸ handing))
  closed c closed :=
    have before := guarded.closed c (clients ▸ closed)
    ⟨quiet.stopped.trans before.1, before.2 ∘ quiet.log⟩
  sole c c' first second := guarded.sole c c' (clients ▸ first) (clients ▸ second)
  joined c w waited := quiet.gone w (guarded.joined c w (quiet.crew ▸ clients ▸ waited))
  emptied c emptied :=
    have before : (o.clients c).emptied = true := clients ▸ emptied
    have ⟨stopped, _⟩ := guarded.closed c (Errand.closed_of_emptied before)
    quiet.queue stopped (guarded.emptied c before)
  crew w beyond := quiet.gone w (guarded.crew w (quiet.crew ▸ beyond))
  halted halted :=
    have ⟨stopped, gone, empty⟩ := guarded.halted (quiet.log halted)
    ⟨quiet.stopped.trans stopped, fun w => quiet.gone w (gone w), quiet.queue stopped empty⟩

private theorem moved {new : Errand τ} (clients : o'.clients = Function.update o.clients c new)
    (d : Nat) : d = c ∧ o'.clients d = new ∨ d ≠ c ∧ o'.clients d = o.clients d := by
  rw [clients]
  by_cases same : d = c
  · exact .inl ⟨same, same ▸ Function.update_self ..⟩
  · exact .inr ⟨same, Function.update_of_ne same ..⟩

/-- One client goes from one stage to the next. -/
theorem Guarded.move {new : Errand τ} (guarded : o.Guarded) (quiet : Quiet o o')
    (clients : o'.clients = Function.update o.clients c new)
    (passes : Passes c (o.clients c) new o.door o'.door)
    (handing : new.handing = true → o.tagger.stopped = false)
    (closed : new.closed = true → (o.clients c).closed = true)
    (joined : ∀ w, w < new.joined o.crew → o.workers w = .gone)
    (emptied : new.emptied = true → o.board.queue = []) : o'.Guarded where
  door d inside := by
    rcases moved clients d with ⟨rfl, here⟩ | ⟨apart, here⟩
    · rw [here] at inside
      cases passes with
      | still same before => exact same.trans (guarded.door d (before inside))
      | locks _ locked => exact locked
      | unlocks _ _ outside => simp [outside] at inside
    · rw [here] at inside
      have locked := guarded.door d inside
      cases passes with
      | still same => exact same.trans locked
      | locks free => exact nomatch free.symm.trans locked
      | unlocks before =>
        exact absurd (Option.some.inj (locked.symm.trans (guarded.door c before))) apart
  handing d hands := by
    rw [quiet.stopped]
    rcases moved clients d with ⟨rfl, here⟩ | ⟨_, here⟩
    · exact handing (here ▸ hands)
    · exact guarded.handing d (here ▸ hands)
  closed d closes := by
    have before : (o.clients d).closed = true := by
      rcases moved clients d with ⟨rfl, here⟩ | ⟨_, here⟩
      · exact closed (here ▸ closes)
      · exact here ▸ closes
    obtain ⟨stopped, running⟩ := guarded.closed d before
    exact ⟨quiet.stopped.trans stopped, running ∘ quiet.log⟩
  sole d e first second := by
    have before (d : Nat) (closes : (o'.clients d).closed = true) : (o.clients d).closed = true := by
      rcases moved clients d with ⟨rfl, here⟩ | ⟨_, here⟩
      · exact closed (here ▸ closes)
      · exact here ▸ closes
    exact guarded.sole d e (before d first) (before e second)
  joined d w waited := by
    rw [quiet.crew] at waited
    rcases moved clients d with ⟨rfl, here⟩ | ⟨_, here⟩
    · exact quiet.gone w (joined w (here ▸ waited))
    · exact quiet.gone w (guarded.joined d w (here ▸ waited))
  emptied d empties := by
    rcases moved clients d with ⟨rfl, here⟩ | ⟨_, here⟩
    · rw [here] at empties
      obtain ⟨stopped, _⟩ := guarded.closed d (closed (Errand.closed_of_emptied empties))
      exact quiet.queue stopped (emptied empties)
    · rw [here] at empties
      obtain ⟨stopped, _⟩ := guarded.closed d (Errand.closed_of_emptied empties)
      exact quiet.queue stopped (guarded.emptied d empties)
  crew w beyond := quiet.gone w (guarded.crew w (quiet.crew ▸ beyond))
  halted halted := by
    obtain ⟨stopped, gone, empty⟩ := guarded.halted (quiet.log halted)
    exact ⟨quiet.stopped.trans stopped, fun w => quiet.gone w (gone w), quiet.queue stopped empty⟩

/-! ### Steps -/

theorem Quiet.refl : Quiet o o := ⟨rfl, rfl, fun _ gone => gone, fun _ empty => empty, id⟩

theorem Quiet.client {errand : Errand τ} (quiet : Quiet o o') : Quiet o (o'.client c errand) :=
  ⟨quiet.stopped, quiet.crew, quiet.gone, quiet.queue, quiet.log⟩

theorem Quiet.note {entry : Happening τ κ} (quiet : Quiet o o') (other : entry ≠ .stopped) :
    Quiet o (o'.note entry) where
  stopped := quiet.stopped
  crew := quiet.crew
  gone := quiet.gone
  queue := quiet.queue
  log member := by
    rcases List.mem_append.mp member with earlier | now
    · exact quiet.log earlier
    · exact absurd (List.mem_singleton.mp now).symm other

theorem Quiet.reply {d : Demand} {outcome : Except Fault Answer} (quiet : Quiet o o') :
    Quiet o (o'.reply c d outcome) := quiet.client.note (by nofun)

theorem quiet_after {α : Type} {work : Room.Work τ κ β α}
    (stopped : (work o.room).2.tagger.stopped = o.room.tagger.stopped)
    (queue : (work o.room).2.tagger.board.queue = o.room.tagger.board.queue) :
    Quiet o (o.after work) where
  stopped := stopped
  crew := rfl
  gone _ gone := gone
  queue _ empty := queue.trans empty
  log := id

private theorem quiet_lock : Quiet o (o.lock c) := ⟨rfl, rfl, fun _ gone => gone, fun _ empty => empty, id⟩

private theorem quiet_unlock : Quiet o o.unlock := ⟨rfl, rfl, fun _ gone => gone, fun _ empty => empty, id⟩

private theorem quiet_taking {id : String} (found : (Tagging.takeWaiting o.room).1 = .ok (some id)) :
    Quiet o (o.after Tagging.takeWaiting) := by
  obtain ⟨queue, next, taken⟩ := Tagging.takeWaiting_some found
  refine ⟨?_, rfl, fun _ gone => gone, ?_, fun member => member⟩
  · change (Tagging.takeWaiting o.room).2.tagger.stopped = _
    rw [taken]
    rfl
  · intro _ empty
    exact nomatch next.symm.trans empty

/-- A client goes on with a demand. -/
theorem Guarded.call {d : Demand} {stage : CallStage τ} (guarded : o.Guarded) (quiet : Quiet o o')
    (clients : o'.clients = Function.update o.clients c (.call d stage))
    (passes : Passes c (o.clients c) (.call d stage) o.door o'.door)
    (handing : (Errand.call d stage).handing = true → o.tagger.stopped = false) : o'.Guarded :=
  guarded.move quiet clients passes handing nofun (fun _ => nofun) nofun

/-- A client comes to an end. -/
theorem Guarded.leave (guarded : o.Guarded) (quiet : Quiet o o')
    (clients : o'.clients = Function.update o.clients c .idle)
    (passes : Passes c (o.clients c) .idle o.door o'.door) : o'.Guarded :=
  guarded.move quiet clients passes nofun nofun (fun _ => nofun) nofun

theorem Quiet.worker {shift : Shift κ} (quiet : Quiet o o') (present : o.workers w ≠ .gone) :
    Quiet o (o'.worker w shift) where
  stopped := quiet.stopped
  crew := quiet.crew
  gone v gone := by
    have apart : v ≠ w := fun same => present (same ▸ gone)
    exact (Function.update_of_ne apart ..).trans (quiet.gone v gone)
  queue := quiet.queue
  log := quiet.log

/-- Whoever closes the work is alone, and nobody has a job to hand in. -/
theorem Guarded.close (guarded : o.Guarded) (here : o.clients c = .stop .closing)
    (running : o.tagger.stopped = false) :
    ((o.after Tagging.close).client c (.stop (.unlocking true))).Guarded := by
  have locked : o.door = some c := guarded.door c (here ▸ rfl)
  have unclosed (d : Nat) : (o.clients d).closed = false := by
    by_contra closed
    exact nomatch running.symm.trans (guarded.closed d (by simpa using closed)).1
  have unfinished : .stopped ∉ o.log := fun halted => nomatch running.symm.trans (guarded.halted halted).1
  have moved (d : Nat) :=
    moved (show ((o.after Tagging.close).client c (.stop (.unlocking true))).clients =
      Function.update o.clients c (.stop (.unlocking true)) from rfl) d
  refine ⟨?_, ?_, ?_, ?_, ?_, ?_, guarded.crew, fun halted => absurd halted unfinished⟩
  · intro d inside
    rcases moved d with ⟨rfl, _⟩ | ⟨_, kept⟩
    · exact locked
    · exact guarded.door d (kept ▸ inside)
  · intro d hands
    rcases moved d with ⟨rfl, kept⟩ | ⟨apart, kept⟩
    · rw [kept] at hands
      cases hands
    · have other := guarded.door d (Errand.inside_of_handing (kept ▸ hands))
      exact absurd (Option.some.inj (other.symm.trans locked)) apart
  · intro d _
    exact ⟨rfl, unfinished⟩
  · have only (d : Nat)
        (closed : ((o.after Tagging.close).client c (.stop (.unlocking true)) |>.clients d).closed =
          true) : d = c := by
      rcases moved d with ⟨same, _⟩ | ⟨_, kept⟩
      · exact same
      · rw [kept, unclosed d] at closed
        cases closed
    intro d e first second
    exact (only d first).trans (only e second).symm
  · intro d w waited
    rcases moved d with ⟨rfl, kept⟩ | ⟨_, kept⟩
    · rw [kept] at waited
      cases waited
    · rw [kept] at waited
      exact guarded.joined d w waited
  · intro d empties
    rcases moved d with ⟨rfl, kept⟩ | ⟨_, kept⟩
    · rw [kept] at empties
      cases empties
    · rw [kept] at empties
      exact guarded.emptied d empties

/-- Whoever stopped the work comes back. -/
theorem Guarded.comeBack (guarded : o.Guarded) (here : o.clients c = .stop .reporting) :
    (((o.after Tagging.reportStop).note .stopped).client c .idle).Guarded := by
  obtain ⟨stopped, _⟩ := guarded.closed c (here ▸ rfl)
  have empty := guarded.emptied c (here ▸ rfl)
  have gone (w : Nat) : o.workers w = .gone := by
    rcases Nat.lt_or_ge w o.crew with member | beyond
    · exact guarded.joined c w (here ▸ member)
    · exact guarded.crew w beyond
  have moved (d : Nat) :=
    moved (show (((o.after Tagging.reportStop).note .stopped).client c .idle).clients =
      Function.update o.clients c .idle from rfl) d
  have unclosed (d : Nat)
      (closed : ((((o.after Tagging.reportStop).note .stopped).client c .idle).clients d).closed =
        true) : False := by
    rcases moved d with ⟨rfl, kept⟩ | ⟨apart, kept⟩
    · rw [kept] at closed
      cases closed
    · rw [kept] at closed
      exact apart (guarded.sole d c closed (here ▸ rfl))
  refine ⟨?_, ?_, fun d closed => (unclosed d closed).elim,
    fun d _ closed => (unclosed d closed).elim, fun _ w _ => gone w, fun _ _ => empty,
    fun w _ => gone w, fun _ => ⟨stopped, gone, empty⟩⟩
  · intro d inside
    rcases moved d with ⟨rfl, kept⟩ | ⟨_, kept⟩
    · rw [kept] at inside
      cases inside
    · exact guarded.door d (kept ▸ inside)
  · intro d hands
    rcases moved d with ⟨rfl, kept⟩ | ⟨_, kept⟩
    · rw [kept] at hands
      cases hands
    · exact guarded.handing d (kept ▸ hands)

variable [TimeScale τ]

private theorem quiet_job {d : Demand} {memo : Int} : Quiet o (o.after (d.job memo)) := by
  obtain ⟨entropy, drawn⟩ := Tagging.newJob_room o.room d.user memo d.content d.existing
  exact quiet_after (congrArg (fun room => room.tagger.stopped) drawn)
    (congrArg (fun room => room.tagger.board.queue) drawn)

private theorem quiet_grant {now : τ} {user : Int} : Quiet o (o.after (Tagging.grantAt now user)) := by
  obtain ⟨quota, granted⟩ := Tagging.grantAt_room o.room now user
  exact quiet_after (congrArg (fun room => room.tagger.stopped) granted)
    (congrArg (fun room => room.tagger.board.queue) granted)

theorem CallStep.guarded {d : Demand} {stage : CallStage τ} (step : CallStep c d stage o o')
    (here : o.clients c = .call d stage) (guarded : o.Guarded) : o'.Guarded := by
  have inside (under : (Errand.call d stage).inside = true) : (o.clients c).inside = true :=
    here ▸ under
  have running (hands : (Errand.call d stage).handing = true) : o.tagger.stopped = false :=
    guarded.handing c (here ▸ hands)
  cases step with
  | enter | read => exact guarded.call Quiet.refl.client rfl (.still rfl nofun) nofun
  | barred | serve => exact guarded.leave Quiet.refl.reply rfl (.still rfl nofun)
  | grant => exact guarded.call quiet_grant.client rfl (.still rfl nofun) nofun
  | overQuota => exact guarded.leave quiet_grant.reply rfl (.still rfl nofun)
  | hit | miss | ask | answer =>
    exact guarded.call (Quiet.refl.note (by nofun)).client rfl (.still rfl nofun) nofun
  | serveJob => exact guarded.leave (quiet_job.note (by nofun)).reply rfl (.still rfl nofun)
  | unserved | unnamed => exact guarded.leave quiet_job.reply rfl (.still rfl nofun)
  | name => exact guarded.call (quiet_job.note (by nofun)).client rfl (.still rfl nofun) nofun
  | lock free => exact guarded.call quiet_lock.client rfl (.locks free rfl) nofun
  | proceed admitted =>
    exact guarded.call Quiet.refl.client rfl (.still rfl inside)
      fun _ => Tagging.requireRunning_ok.mp admitted
  | tooLate => exact guarded.call Quiet.refl.client rfl (.still rfl inside) nofun
  | record =>
    exact guarded.call (quiet_after rfl rfl).client rfl (.still rfl inside) running
  | @accept _ job queued =>
    have offered := Tagging.offer_room job.id (Tagging.offer_ok.mp queued)
    have quiet : Quiet o (o.after (Tagging.offer job.id)) := by
      refine ⟨congrArg (fun room => room.tagger.stopped) offered, rfl, fun _ gone => gone, ?_, id⟩
      exact fun stopped => nomatch (running rfl).symm.trans stopped
    exact guarded.call (quiet.note (by nofun)).client rfl (.still rfl inside) nofun
  | full => exact guarded.call Quiet.refl.client rfl (.still rfl inside) running
  | withdraw =>
    exact guarded.call (quiet_after rfl rfl).client rfl (.still rfl inside) nofun
  | leave => exact guarded.leave quiet_unlock.reply rfl (.unlocks (inside rfl) rfl rfl)
  | openInner => exact guarded.call (quiet_after rfl rfl).client rfl (.still rfl nofun) nofun
  | fail => exact guarded.leave (Quiet.refl.note (by nofun)).reply rfl (.still rfl nofun)
  | keep =>
    exact guarded.call ((quiet_after rfl rfl).note (by nofun)).client rfl (.still rfl nofun) nofun
  | report => exact guarded.leave (quiet_after rfl rfl).reply rfl (.still rfl nofun)

theorem StopStep.guarded {stage : StopStage} (step : StopStep c stage o o')
    (here : o.clients c = .stop stage) (guarded : o.Guarded) : o'.Guarded := by
  have inside (under : (Errand.stop (τ := τ) stage).inside = true) :
      (o.clients c).inside = true := here ▸ under
  have closed (closes : (Errand.stop (τ := τ) stage).closed = true) :
      (o.clients c).closed = true := here ▸ closes
  have joined (w : Nat) (waited : w < (Errand.stop (τ := τ) stage).joined o.crew) :
      o.workers w = .gone := guarded.joined c w (here ▸ waited)
  cases step with
  | lock free =>
    exact guarded.move quiet_lock.client rfl (.locks free rfl) nofun nofun (fun _ => nofun) nofun
  | close first => exact guarded.close here (Except.ok.inj first)
  | late =>
    exact guarded.move Quiet.refl.client rfl (.still rfl inside) nofun nofun (fun _ => nofun) nofun
  | goOn =>
    exact guarded.move quiet_unlock.client rfl (.unlocks (inside rfl) rfl rfl) nofun closed
      (fun _ => nofun) nofun
  | goBack => exact guarded.leave quiet_unlock.client rfl (.unlocks (inside rfl) rfl rfl)
  | signal =>
    have quiet : Quiet o { o with signalled := true } :=
      ⟨rfl, rfl, fun _ gone => gone, fun _ empty => empty, id⟩
    exact guarded.move quiet.client rfl (.still rfl nofun) nofun closed (fun _ => nofun) nofun
  | cancel =>
    exact guarded.move ((quiet_after rfl rfl).note (by nofun)).client rfl (.still rfl nofun) nofun
      closed (fun _ => nofun) nofun
  | @join _ next comes gone =>
    refine guarded.move Quiet.refl.client rfl (.still rfl nofun) nofun closed ?_ nofun
    intro w waited
    rcases Nat.lt_succ_iff_lt_or_eq.mp waited with earlier | rfl
    · exact joined w earlier
    · exact gone
  | joined all =>
    exact guarded.move Quiet.refl.client rfl (.still rfl nofun) nofun closed
      (fun w waited => joined w (all ▸ waited)) nofun
  | take found =>
    exact guarded.move (quiet_taking found).client rfl (.still rfl nofun) nofun closed joined nofun
  | drained empty =>
    exact guarded.move Quiet.refl.client rfl (.still rfl nofun) nofun closed joined
      fun _ => Tagging.takeWaiting_none.mp empty
  | fail =>
    exact guarded.move ((quiet_after rfl rfl).note (by nofun)).client rfl (.still rfl nofun) nofun
      closed joined nofun
  | report => exact guarded.comeBack here

theorem ShiftStep.guarded {shift : Shift κ} (step : ShiftStep w shift o o')
    (here : o.workers w = shift) (guarded : o.Guarded) : o'.Guarded := by
  have present (other : shift ≠ .gone) : o.workers w ≠ .gone := here ▸ other
  cases step with
  | look | go | rest | unknown | keepStill =>
    exact guarded.quiet (Quiet.refl.worker (present nofun)) rfl rfl
  | fetch found => exact guarded.quiet ((quiet_taking found).worker (present nofun)) rfl rfl
  | start found =>
    obtain ⟨old, _, _, _, begun⟩ := Tagging.beginJob_some found
    have quiet := quiet_after (congrArg (fun room => room.tagger.stopped) begun)
      (congrArg (fun room => room.tagger.board.queue) begun)
    exact guarded.quiet ((quiet.note (by nofun)).worker (present nofun)) rfl rfl
  | openInner => exact guarded.quiet ((quiet_after rfl rfl).worker (present nofun)) rfl rfl
  | ask | answer | fail | tell =>
    exact guarded.quiet ((Quiet.refl.note (by nofun)).worker (present nofun)) rfl rfl
  | keep | publish =>
    exact guarded.quiet (((quiet_after rfl rfl).note (by nofun)).worker (present nofun)) rfl rfl

theorem AsideStep.guarded (step : AsideStep o o') (guarded : o.Guarded) : o'.Guarded := by
  cases step with
  | call => exact guarded.call (Quiet.refl.note (by nofun)).client rfl (.still rfl nofun) nofun
  | stop =>
    exact guarded.move Quiet.refl.client rfl (.still rfl nofun) nofun nofun (fun _ => nofun) nofun
  | look => exact guarded.quiet (Quiet.refl.note (by nofun)) rfl rfl
  | tidy | clear => exact guarded.quiet ((quiet_after rfl rfl).note (by nofun)) rfl rfl
  | setCallback => exact guarded.quiet (quiet_after rfl rfl) rfl rfl
  | elsewhere | release => exact guarded.quiet (quiet_after rfl rfl) rfl rfl
  | partner =>
    exact guarded.quiet ⟨rfl, rfl, fun _ gone => gone, fun _ empty => empty, id⟩ rfl rfl

theorem Step.guarded (step : Step o o') (guarded : o.Guarded) : o'.Guarded := by
  cases step with
  | call here step => exact step.guarded here guarded
  | stop here step => exact step.guarded here guarded
  | shift here step => exact step.guarded here guarded
  | aside step => exact step.guarded guarded

theorem guarded_start {config : TaggingConfig τ} {world : World τ} {partner : β} {crew : Nat} :
    (start config world partner crew : Office τ κ β).Guarded where
  door _ := nofun
  handing _ := nofun
  closed _ := nofun
  sole _ _ := nofun
  joined _ _ := nofun
  emptied _ := nofun
  crew w beyond := by
    simp only [start, Bool.and_eq_true, decide_eq_true_eq]
    rw [if_neg (fun member => absurd member.2 (Nat.not_lt.mpr beyond))]
  halted := nofun

theorem Leads.guarded (leads : Leads o o') (guarded : o.Guarded) : o'.Guarded := by
  induction leads with
  | refl => exact guarded
  | tail _ step ih => exact step.guarded ih

end Office

end MemoAssist

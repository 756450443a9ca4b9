import MemoAssist.Proofs.Tagging.Cancelling
import MemoAssist.Proofs.Tagging.Closing
import MemoAssist.Proofs.Tagging.LifeCycle
import MemoAssist.Proofs.Tagging.Single

/-! The end of the work. Once whoever stopped the work has come back, no job waits or runs, each has
the outcome it was given, and no job comes in any more. As soon as the scope of all jobs is
cancelled, so is every scope in which a worker asks the backend. -/
namespace MemoAssist

variable {τ κ β : Type}

namespace Office

variable {o o' : Office τ κ β} {c w : Nat}

/-! ### What the log says -/

theorem mem_accepted {id : String} :
    id ∈ o.log.filterMap Happening.accepted? ↔ .accepted id ∈ o.log := by
  rw [List.mem_filterMap]
  constructor
  · rintro ⟨entry, member, same⟩
    cases entry <;> simp [Happening.accepted?] at same
    exact same ▸ member
  · intro member
    exact ⟨_, member, rfl⟩

private theorem mem_begun {id : String} :
    id ∈ o.log.filterMap Happening.begun? ↔ .begun id ∈ o.log := by
  rw [List.mem_filterMap]
  constructor
  · rintro ⟨entry, member, same⟩
    cases entry <;> simp [Happening.begun?] at same
    exact same ▸ member
  · intro member
    exact ⟨_, member, rfl⟩

private theorem mem_published {id : String} {outcome : Except Fault SuggestTagsResponse} :
    (id, outcome) ∈ o.log.filterMap Happening.published? ↔ .published id outcome ∈ o.log := by
  rw [List.mem_filterMap]
  constructor
  · rintro ⟨entry, member, same⟩
    cases entry <;> simp [Happening.published?] at same
    obtain ⟨rfl, rfl⟩ := same
    exact member
  · intro member
    exact ⟨_, member, rfl⟩

/-- The job under an id was forgotten at some time. -/
def Forgot (o : Office τ κ β) (id : String) : Prop := ∃ ids, .expired ids ∈ o.log ∧ id ∈ ids

private theorem forgot_of_mem {id : String} (member : id ∈ o.log.flatMap Happening.expiredIds) :
    o.Forgot id := by
  obtain ⟨entry, logged, inside⟩ := List.mem_flatMap.mp member
  cases entry <;> simp [Happening.expiredIds] at inside
  exact ⟨_, logged, inside⟩

/-- At rest, nobody has more in hand than a job that is not recorded. -/
theorem hold_fresh {x : Holder} {h : Hold} (guarded : o.Guarded) (halted : .stopped ∈ o.log)
    (holds : o.hold x = some h) : ∃ job, h = .fresh job := by
  obtain ⟨stopped, gone, _⟩ := guarded.halted halted
  cases x with
  | worker w => simp [hold, gone w, Shift.hold?] at holds
  | client c =>
    cases stage : o.clients c with
    | idle => simp [hold, stage, Errand.hold?] at holds
    | call d s =>
      have handing (hands : (Errand.call d s).handing = true) : False := by
        have both := (guarded.handing c (stage ▸ hands)).symm.trans stopped
        cases both
      cases s <;> simp [hold, stage, Errand.hold?] at holds
      case offering => exact (handing rfl).elim
      case withdrawing => exact (handing rfl).elim
      all_goals exact ⟨_, holds.symm⟩
    | stop s =>
      cases s <;> simp [hold, stage, Errand.hold?] at holds
      exact absurd halted (guarded.closed c (stage ▸ rfl)).2

/-! ### At rest -/

variable [TimeScale τ]

/-- What is found once the work has ended. -/
structure AtRest (o : Office τ κ β) : Prop where
  queue : o.board.queue = []
  /-- No job waits or runs. -/
  final : ∀ job ∈ o.board.jobs, job.status.isFinal = true
  /-- No job is taken in. -/
  refuses : ∀ user memo content existing, ∃ f : Fault, f.kind = .disabled ∧
    Tagging.submit user memo content existing o.room = (.error f, o.room)
  /-- To stop once more changes nothing. -/
  done : Tagging.stop o.room = (.ok (), o.room)

/-- What has become of the job under an id. -/
structure Concluded (o : Office τ κ β) (id : String) : Prop where
  /-- If it was accepted and never begun, it has failed, if it is not forgotten. -/
  accepted : .accepted id ∈ o.log → .begun id ∉ o.log →
    (∃ job ∈ o.board.jobs, job.id = id ∧ job.Bears (.error JobBoard.stopped) ∧
      job.completed.isSome = true) ∨ o.Forgot id
  /-- If it was worked on, it has the outcome it was given, if it is not forgotten. -/
  published : ∀ outcome, .published id outcome ∈ o.log →
    (∃ job ∈ o.board.jobs, job.id = id ∧ job.Bears outcome) ∨ o.Forgot id

private theorem atRest (guarded : o.Guarded) (tended : o.ledger.Tended) (halted : .stopped ∈ o.log) :
    o.AtRest := by
  obtain ⟨stopped, _, empty⟩ := guarded.halted halted
  refine ⟨empty, ?_, fun _ _ _ _ => Tagging.submit_stopped stopped, Tagging.stop_again stopped⟩
  intro job member
  cases status : job.status with
  | completed | failed => rfl
  | pending =>
    rcases tended.pending job member status with queued | ⟨x, h, holds, _, waits⟩
    · exact absurd (empty ▸ queued) List.not_mem_nil
    · obtain ⟨_, rfl⟩ := hold_fresh guarded halted holds
      cases waits
  | running =>
    obtain ⟨x, h, holds, _, works⟩ := tended.running job member status
    obtain ⟨_, rfl⟩ := hold_fresh guarded halted holds
    cases works

omit [TimeScale τ] in
private theorem concluded {limit : Int} {id : String} (guarded : o.Guarded)
    (sound : (o.ledger.about id).Sound limit) (account : (o.ledger.about id).Account)
    (halted : .stopped ∈ o.log) : o.Concluded id := by
  obtain ⟨_, _, empty⟩ := guarded.halted halted
  constructor
  · intro accepted unbegun
    rcases Ledger.single_accepted account (mem_accepted.mpr accepted) with
      begun | waits | ended | expired
    · exact absurd (mem_begun.mp begun) unbegun
    · rcases waits with queued | ⟨x, holds⟩
      · exact absurd (empty ▸ queued) List.not_mem_nil
      · obtain ⟨_, other⟩ := hold_fresh guarded halted holds
        cases other
    · obtain ⟨job, found, bears⟩ := ended
      have shaped := sound.shaped id job (JobBoard.find?_about.trans found)
      exact .inl ⟨job, JobBoard.find?_mem found, JobBoard.find?_id found, bears,
        shaped.completed.trans bears.final⟩
    · exact .inr (forgot_of_mem expired)
  · intro outcome published
    rcases Ledger.single_published account (mem_published.mpr published) with ended | expired
    · obtain ⟨job, found, bears⟩ := ended
      exact .inl ⟨job, JobBoard.find?_mem found, JobBoard.find?_id found, bears⟩
    · exact .inr (forgot_of_mem expired)

/-! ### From then on -/

/-- What becomes of the office from some moment on, whatever anybody does. -/
structure Rests (o : Office τ κ β) : Prop where
  /-- Nothing is added. -/
  kept : ∀ later, Leads o later → later.board.queue = [] ∧
    later.board.jobs.Sublist o.board.jobs ∧
    later.log.filterMap Happening.accepted? = o.log.filterMap Happening.accepted?
  /-- Whoever asks for a job from then on is refused in the first step. -/
  refused : ∀ later, Leads o later → ∀ c d memo stage next, o.clients c = .idle →
    later.clients c = .call d stage → d.purpose = .later memo → CallStep c d stage later next →
    ∃ f : Fault, f.kind = .disabled ∧ next = later.reply c d (.error f)
  /-- Whoever wants to stop the work from then on changes nothing. -/
  stopped : ∀ later, Leads o later → ∀ c stage next, later.clients c = .stop stage →
    StopStep c stage later next →
    next.room = later.room ∧ next.workers = later.workers ∧ next.signalled = later.signalled ∧
      next.log = later.log

/-- Nothing comes to the board in this step. -/
structure Adds (o o' : Office τ κ β) : Prop where
  jobs : o'.board.jobs.Sublist o.board.jobs
  accepted : o'.log.filterMap Happening.accepted? = o.log.filterMap Happening.accepted?

theorem CallStep.rests {d : Demand} {stage : CallStage τ} (step : CallStep c d stage o o')
    (here : o.clients c = .call d stage) (guarded : o.Guarded) (halted : .stopped ∈ o.log) :
    Adds o o' := by
  obtain ⟨stopped, _⟩ := guarded.halted halted
  have handing (hands : (Errand.call d stage).handing = true) : False :=
    nomatch (guarded.handing c (here ▸ hands)).symm.trans stopped
  have same (board : o'.board = o.board) : o'.board.jobs.Sublist o.board.jobs :=
    board ▸ List.Sublist.refl _
  cases step with
  | record | accept | withdraw => exact (handing rfl).elim
  | grant | overQuota =>
    exact ⟨same (congrArg Ledger.board ledger_after_grant), by simp [Happening.accepted?]⟩
  | serveJob | unserved | name | unnamed =>
    exact ⟨same (congrArg Ledger.board ledger_after_job), by simp [Happening.accepted?]⟩
  | _ =>
    exact ⟨same rfl, by simp [Happening.accepted?, recalling, asking, storing]⟩

/-- Whoever wants to stop the work goes away again. -/
theorem StopStep.rests {stage : StopStage} (step : StopStep c stage o o')
    (here : o.clients c = .stop stage) (guarded : o.Guarded) (halted : .stopped ∈ o.log) :
    o'.room = o.room ∧ o'.workers = o.workers ∧ o'.signalled = o.signalled ∧ o'.log = o.log := by
  have closed (closes : (Errand.stop (τ := τ) stage).closed = true) : False :=
    (guarded.closed c (here ▸ closes)).2 halted
  cases step with
  | lock | late | goBack => exact ⟨rfl, rfl, rfl, rfl⟩
  | close first => exact nomatch (Except.ok.inj first).symm.trans (guarded.halted halted).1
  | goOn | signal | cancel | join | joined | take | drained | fail | report =>
    exact (closed rfl).elim

theorem AsideStep.rests (step : AsideStep o o') : Adds o o' := by
  cases step with
  | tidy => exact ⟨List.filter_sublist, by simp [Happening.accepted?]⟩
  | _ => exact ⟨List.Sublist.refl _, by simp [Happening.accepted?]⟩

theorem Step.rests (step : Step o o') (guarded : o.Guarded) (halted : .stopped ∈ o.log) :
    Adds o o' := by
  cases step with
  | call here step => exact step.rests here guarded halted
  | stop here step =>
    obtain ⟨room, _, _, log⟩ := step.rests here guarded halted
    exact ⟨by rw [board, board, room], by rw [log]⟩
  | @shift w stage here step =>
    have gone := (guarded.halted halted).2.1 w
    rw [gone] at here
    subst here
    cases step
  | aside step => exact step.rests

/-- A client who wants a job is refused in the first step. -/
theorem CallStep.refused {d : Demand} {memo : Int} (step : CallStep c d .entering o o')
    (later : d.purpose = .later memo) (stopped : o.tagger.stopped = true) :
    ∃ f : Fault, f.kind = .disabled ∧ o' = o.reply c d (.error f) := by
  obtain ⟨f, kind, barred⟩ := Tagging.requireOpen_stopped stopped
  have entrance : d.entrance o.room = (.error f, o.room) := by
    unfold Demand.entrance
    rw [later]
    exact barred
  cases step with
  | enter admitted =>
    rw [entrance] at admitted
    cases admitted
  | barred refused =>
    rw [entrance] at refused
    exact ⟨f, kind, Except.error.inj refused ▸ rfl⟩

/-- A client who sets out for a job once the work is stopped gets no further than the entrance. -/
theorem Leads.entering (leads : Leads o o') (stopped : o.tagger.stopped = true)
    (free : o.clients c = .idle) {d : Demand} {memo : Int} {stage : CallStage τ}
    (here : o'.clients c = .call d stage) (later : d.purpose = .later memo) :
    stage = .entering := by
  induction leads generalizing d memo stage with
  | refl => exact nomatch free.symm.trans here
  | tail leads step ih =>
    cases step.client c with
    | stays same => exact ih (same.symm.trans here) later
    | @calls d' _ before step =>
      rcases step.client with idle | ⟨next, now⟩
      · exact nomatch idle.symm.trans here
      · obtain ⟨rfl, rfl⟩ := Errand.call.inj (now.symm.trans here)
        obtain rfl := ih before later
        obtain ⟨f, _, refused⟩ := step.refused later (Leads.steady leads |>.room.stopped stopped)
        rw [refused] at here
        exact nomatch (Function.update_self ..).symm.trans here
    | stops _ step =>
      rcases step.client with idle | ⟨next, now⟩
      · exact nomatch idle.symm.trans here
      · exact nomatch now.symm.trans here
    | begins _ now => exact (Errand.call.inj (now.symm.trans here)).2.symm
    | closes _ now => exact nomatch now.symm.trans here

private theorem halted_later (leads : Leads o o') (halted : .stopped ∈ o.log) : .stopped ∈ o'.log :=
  (Leads.steady leads).log.subset halted

theorem rests (guarded : o.Guarded) (halted : .stopped ∈ o.log) : o.Rests where
  kept later leads := by
    have empty := ((Leads.guarded leads guarded).halted (halted_later leads halted)).2.2
    refine ⟨empty, ?_⟩
    clear empty
    induction leads with
    | refl => exact ⟨List.Sublist.refl _, rfl⟩
    | tail leads step ih =>
      obtain ⟨jobs, accepted⟩ :=
        step.rests (Leads.guarded leads guarded) (halted_later leads halted)
      exact ⟨jobs.trans ih.1, accepted.trans ih.2⟩
  refused later leads c d memo stage next free here purpose step := by
    obtain ⟨stopped, _⟩ := guarded.halted halted
    obtain rfl := Leads.entering leads stopped free here purpose
    exact step.refused purpose ((Leads.steady leads).room.stopped stopped)
  stopped later leads c stage next here step :=
    step.rests here (Leads.guarded leads guarded) (halted_later leads halted)

variable {config : TaggingConfig τ} {world : World τ} {partner : β} {crew : Nat}

/-- Whatever the order of steps: once whoever stopped the work has come back, the work has ended and
stays so, and every job has its outcome unless its id was given to another too; and once the scope of
all jobs is cancelled, workers ask only in cancelled scopes. -/
theorem shutdown (leads : Leads (start config world partner crew) o) :
    (.stopped ∈ o.log → o.AtRest ∧ o.Rests ∧
      ∀ id, (o.log.filterMap Happening.drawn?).count id ≤ 1 → o.Concluded id) ∧
    (.cancelled ∈ o.log → ∀ w job inner,
      o.workers w = .scoped job inner ∨ o.workers w = .awaiting job inner →
        o.room.world.time.isCancelled inner = true) := by
  have guarded := Leads.guarded leads guarded_start
  constructor
  · intro halted
    have tended := Ledger.Run.tended (ledger_of_start leads)
    refine ⟨atRest guarded tended halted, rests guarded halted, ?_⟩
    intro id single
    obtain ⟨sound, account⟩ := Ledger.Run.single (ledger_of_start leads) single
    exact concluded guarded sound account halted
  · intro cancelled w job inner here
    exact (Leads.rooted leads rooted_start).isCancelled cancelled here

/-- A job is accepted, and the work is stopped before any worker comes to it. -/
theorem shutdown_of_accepted : ∃ (o : Office Int Unit Unit) (id : String),
    .accepted id ∈ o.log ∧ .begun id ∉ o.log ∧ o.AtRest ∧ o.Rests ∧ o.Concluded id := by
  let d : Demand := ⟨1, "a memo", [], .later 1⟩
  have run : ∃ (o : Office Int Unit Unit) (id : String) (earlier : List (Happening Int Unit)),
      Leads (start .usual (World.start (Client.ofReplies [])) () 1) o ∧
        o.log.filterMap Happening.drawn? = [id] ∧ o.log.filterMap Happening.accepted? = [id] ∧
          o.log.filterMap Happening.begun? = [] ∧ o.log = earlier ++ [.stopped] :=
    ⟨_, _, _, .tail (.tail (.tail (.tail (.tail (.tail (.tail (.tail (.tail (.tail (.tail (.tail
      (.tail (.tail (.tail (.tail (.tail (.tail (.tail (.tail (.tail (.tail (.tail (.tail .refl
      (.aside (.call (c := 0) (d := d) rfl)))
      (.call clients_client (.enter rfl)))
      (.call clients_client .read))
      (.call clients_client (.grant rfl)))
      (.call clients_client (.miss rfl)))
      (.call clients_client (.name rfl rfl)))
      (.call clients_client (.lock rfl)))
      (.call clients_client (.proceed rfl)))
      (.call clients_client .record))
      (.call clients_client (.accept rfl)))
      (.call clients_client .leave))
      (.aside (.stop (c := 0) rfl)))
      (.stop clients_client (.lock rfl)))
      (.stop clients_client (.close rfl)))
      (.stop clients_client .goOn))
      (.stop clients_client .signal))
      (.stop clients_client .cancel))
      (.shift (w := 0) rfl (.go rfl)))
      (.stop (c := 0) rfl (.join (by decide) rfl)))
      (.stop clients_client (.joined rfl)))
      (.stop clients_client (.take rfl)))
      (.stop clients_client .fail))
      (.stop clients_client (.drained rfl)))
      (.stop clients_client .report), rfl, rfl, rfl, rfl⟩
  obtain ⟨o, id, earlier, leads, drawn, accepted, begun, log⟩ := run
  obtain ⟨rest, rests, concluded⟩ := (shutdown leads).1 (by simp [log])
  refine ⟨o, id, mem_accepted.mp (by simp [accepted]), fun member => ?_, rest, rests,
    concluded id (by simp [drawn])⟩
  simpa [begun] using mem_begun.mpr member

end Office

end MemoAssist

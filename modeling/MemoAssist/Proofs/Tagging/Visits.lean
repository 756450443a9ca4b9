import MemoAssist.Proofs.Act
import MemoAssist.Tagging.Tagger

namespace MemoAssist

namespace Tagging

open Room

variable {τ κ β : Type} {room : Room τ κ β}

/-! ### Looking only -/

private theorem require_eq {condition : Bool} {f : Fault} :
    require condition f room = (if condition then .ok () else .error f, room) := by
  cases condition <;> rfl

private theorem require_ok {condition : Bool} {f : Fault} :
    (require condition f room).1 = .ok () ↔ condition = true := by
  cases condition
  · exact ⟨nofun, nofun⟩
  · exact ⟨fun _ => rfl, fun _ => rfl⟩

@[simp] theorem require_room {condition : Bool} {f : Fault} :
    (require condition f room).2 = room := by
  cases condition <;> rfl

theorem requireRunning_ok :
    (requireRunning room).1 = .ok () ↔ room.tagger.stopped = false := by
  change (require (!room.tagger.stopped) stopped room).1 = .ok () ↔ _
  simp [require_ok]

theorem requireRunning_eq : requireRunning room =
    (if room.tagger.stopped then .error stopped else .ok (), room) := by
  change require (!room.tagger.stopped) stopped room = _
  cases room.tagger.stopped <;> rfl

theorem requireOpen_eq : requireOpen room =
    (if room.tagger.config.takesJobs then
      if room.tagger.stopped then .error stopped else .ok ()
    else .error jobsDisabled, room) := by
  have read : config room = (.ok room.tagger.config, room) := rfl
  refine (Act.bind_ok read).trans ?_
  cases room.tagger.config.takesJobs with
  | false =>
    have refused : require false jobsDisabled room = (.error jobsDisabled, room) := rfl
    exact Act.bind_error refused
  | true =>
    have admitted : require true jobsDisabled room = (.ok (), room) := rfl
    refine (Act.bind_ok admitted).trans ?_
    change require (!room.tagger.stopped) stopped room = _
    cases room.tagger.stopped <;> rfl

/-- Once the work is stopped, the entrance is barred. -/
theorem requireOpen_stopped (halted : room.tagger.stopped = true) :
    ∃ f : Fault, f.kind = .disabled ∧ requireOpen room = (.error f, room) := by
  rw [requireOpen_eq, halted]
  cases room.tagger.config.takesJobs with
  | false => exact ⟨jobsDisabled, rfl, rfl⟩
  | true => exact ⟨stopped, rfl, rfl⟩

/-! ### Visits to the board -/

theorem offer_ok {id : String} :
    (offer id room).1 = .ok true ↔
      room.tagger.board.isFull room.tagger.config.queueLimit = false := by
  unfold offer onTagger Act.within Act.step
  cases full : room.tagger.board.isFull room.tagger.config.queueLimit <;> simp [full]

theorem offer_eq (id : String) : offer id room =
    if room.tagger.board.isFull room.tagger.config.queueLimit then (.ok false, room)
    else (.ok true,
      { room with tagger := { room.tagger with board := room.tagger.board.enqueue id } }) := by
  unfold offer onTagger Act.within Act.step
  cases full : room.tagger.board.isFull room.tagger.config.queueLimit <;> simp [full]

theorem offer_room (id : String)
    (free : room.tagger.board.isFull room.tagger.config.queueLimit = false) :
    (offer id room).2 =
      { room with tagger := { room.tagger with board := room.tagger.board.enqueue id } } := by
  unfold offer onTagger Act.within Act.step
  simp [free]

theorem takeWaiting_none : (takeWaiting room).1 = .ok none ↔ room.tagger.board.queue = [] := by
  unfold takeWaiting onTagger Act.within Act.step JobBoard.dequeue?
  cases queue : room.tagger.board.queue <;> simp [queue]

theorem takeWaiting_some {id : String} (found : (takeWaiting room).1 = .ok (some id)) :
    ∃ queue, room.tagger.board.queue = id :: queue ∧
      (takeWaiting room).2 =
        { room with tagger := { room.tagger with board := { room.tagger.board with queue } } } := by
  unfold takeWaiting onTagger Act.within Act.step JobBoard.dequeue? at found ⊢
  cases queue : room.tagger.board.queue with
  | nil => simp [queue] at found
  | cons first rest =>
    simp only [queue, Except.ok.injEq, Option.some.injEq] at found
    exact ⟨rest, by rw [found], by simp [queue]⟩

theorem takeWaiting_next {id : String} {queue : List String}
    (next : room.tagger.board.queue = id :: queue) :
    takeWaiting room = (.ok (some id),
      { room with tagger := { room.tagger with board := { room.tagger.board with queue } } }) := by
  unfold takeWaiting onTagger Act.within Act.step JobBoard.dequeue?
  simp [next]

theorem beginJob_some {id : String} {job : TagJob} {root : ScopeId}
    (found : (beginJob id room).1 = .ok (some (job, root))) :
    ∃ old, room.tagger.board.find? id = some old ∧ job = old.atWork ∧ root = room.tagger.root ∧
      (beginJob id room).2 =
        { room with
          tagger := { room.tagger with
            board := room.tagger.board.change id fun _ => old.atWork } } := by
  unfold beginJob onTagger Act.within Act.step JobBoard.begin? at found ⊢
  cases here : room.tagger.board.find? id with
  | none => simp [here] at found
  | some old =>
    simp only [here, Option.map_some, Except.ok.injEq, Option.some.injEq, Prod.mk.injEq] at found
    exact ⟨old, rfl, found.1.symm, found.2.symm, by simp [here]⟩

theorem beginJob_none {id : String} :
    (beginJob id room).1 = .ok none ↔ room.tagger.board.find? id = none := by
  unfold beginJob onTagger Act.within Act.step JobBoard.begin?
  cases here : room.tagger.board.find? id <;> simp [here]

theorem beginJob_unknown {id : String} (absent : (beginJob id room).1 = .ok none) :
    beginJob id room = (.ok none, room) := by
  have unknown := beginJob_none.mp absent
  unfold beginJob onTagger Act.within Act.step JobBoard.begin?
  simp [unknown]

section Timed

variable [TimeScale τ]

/-! ### Visits to the quota and the cache -/

/-- A request is counted as the table of quotas does it. -/
theorem grantAt_eq (now : τ) (user : Int) : grantAt now user room =
    (if (room.tagger.quota.grant room.tagger.config.quotaLimit room.tagger.config.quotaWindow now
        user).1 then .ok () else .error (.of .quotaExceeded),
      { room with tagger := { room.tagger with
        quota := (room.tagger.quota.grant room.tagger.config.quotaLimit
          room.tagger.config.quotaWindow now user).2 } }) := by
  exact (Act.bind_ok rfl).trans require_eq

theorem grantAt_room (room : Room τ κ β) (now : τ) (user : Int) :
    ∃ quota, (grantAt now user room).2 = { room with tagger := { room.tagger with quota } } :=
  ⟨_, congrArg Prod.snd (grantAt_eq now user)⟩

theorem cached_eq {content : String} {existing : List String} : cached content existing room =
    (.ok (room.tagger.cache.lookUp room.tagger.config.cacheSpan room.world.time.now
      (cacheKey content existing)), room) := rfl

/-! ### A new job -/

theorem newJob_ok {user memo : Int} {content : String} {existing : List String} {job : TagJob}
    (named : (newJob user memo content existing room).1 = .ok job) :
    ∃ id created, job = { id, memo, content, existing, user, created } := by
  unfold newJob newJobId at named
  cases wide : isWide memo with
  | false =>
    rw [wide] at named
    cases named
  | true =>
    rw [wide] at named
    exact ⟨_, _, (Except.ok.inj named).symm⟩

theorem newJob_room (room : Room τ κ β) (user memo : Int) (content : String)
    (existing : List String) :
    ∃ entropy, (newJob user memo content existing room).2 =
      { room with world := { room.world with entropy } } := by
  unfold newJob newJobId
  cases wide : isWide memo with
  | false => exact ⟨room.world.entropy, rfl⟩
  | true => exact ⟨(room.world.entropy.draw saltSize).2, rfl⟩

/-! ### The end of the work -/

theorem drain_done (done : room.tagger.board.queue = []) : drain room = (.ok (), room) := by
  obtain ⟨world, tagger, partner⟩ := room
  obtain ⟨config, root, cache, quota, ⟨jobs, queue⟩, callback, running⟩ := tagger
  cases done
  rfl

/-- To drain the queue is to fail its first job, and to drain the rest. -/
theorem drain_next {id : String} {queue : List String}
    (next : room.tagger.board.queue = id :: queue) :
    drain room = drain (abandonJob id (takeWaiting room).2).2 := by
  obtain ⟨world, tagger, partner⟩ := room
  obtain ⟨config, root, cache, quota, ⟨jobs, _⟩, callback, running⟩ := tagger
  cases next
  rfl

theorem stop_first (first : room.tagger.stopped = false) :
    stop room = reportStop (drain (cancelJobs (close room).2).2).2 := by
  obtain ⟨world, tagger, partner⟩ := room
  obtain ⟨config, root, cache, quota, board, callback, running⟩ := tagger
  cases first
  rfl

theorem stop_again (halted : room.tagger.stopped = true) : stop room = (.ok (), room) := by
  obtain ⟨world, tagger, partner⟩ := room
  obtain ⟨config, root, cache, quota, board, callback, running⟩ := tagger
  cases halted
  rfl

/-- Once the work is stopped, no job is taken in. -/
theorem submit_stopped {user memo : Int} {content : String} {existing : List String}
    (halted : room.tagger.stopped = true) :
    ∃ f : Fault, f.kind = .disabled ∧
      submit user memo content existing room = (.error f, room) := by
  obtain ⟨f, kind, barred⟩ := requireOpen_stopped halted
  exact ⟨f, kind, Act.bind_error barred⟩

end Timed

end Tagging

end MemoAssist

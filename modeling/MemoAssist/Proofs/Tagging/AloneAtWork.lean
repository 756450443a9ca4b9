import MemoAssist.Proofs.Tagging.Alone

namespace MemoAssist

variable {τ κ β : Type} [TimeScale τ]

namespace Office

variable {o o' o'' : Office τ κ β} {c w : Nat}

/-! ### A worker with a job -/

/-- One worker goes on. -/
structure Busy (w : Nat) (o o' : Office τ κ β) : Prop where
  leads : Leads o o'
  others : ∀ other, other ≠ w → o'.workers other = o.workers other
  clients : o'.clients = o.clients
  door : o'.door = o.door
  signalled : o'.signalled = o.signalled

theorem Busy.trans (first : Busy w o o') (second : Busy w o' o'') : Busy w o o'' where
  leads := first.leads.trans second.leads
  others other apart := (second.others other apart).trans (first.others other apart)
  clients := second.clients.trans first.clients
  door := second.door.trans first.door
  signalled := second.signalled.trans first.signalled

theorem Aloof.busy (aloof : Aloof o o') : Busy w o o' :=
  ⟨aloof.leads, fun _ _ => congrFun aloof.workers _, aloof.clients, aloof.door, aloof.signalled⟩

theorem ShiftStep.busy {shift : Shift κ} (step : ShiftStep w shift o o')
    (here : o.workers w = shift) : Busy w o o' where
  leads := .single (.shift here step)
  others _ apart := by cases step <;> exact Function.update_of_ne apart ..
  clients := step.clients
  door := by cases step <;> rfl
  signalled := by cases step <;> rfl

/-- A worker looks for the next job, after some work came to its end in a room. -/
structure Worked (w : Nat) (o : Office τ κ β) (room : Room τ κ β) (o' : Office τ κ β) : Prop where
  busy : Busy w o o'
  looks : o'.workers w = .looking
  room : o'.room = room

theorem ShiftStep.follow {shift : Shift κ} {room : Room τ κ β} (step : ShiftStep w shift o o')
    (here : o.workers w = shift) (rest : ∃ o'', Worked w o' room o'') :
    ∃ o'', Worked w o room o'' := by
  obtain ⟨o'', worked⟩ := rest
  exact ⟨o'', (step.busy here).trans worked.busy, worked.looks, worked.room⟩

theorem Aloof.worked {room : Room τ κ β} (aloof : Aloof o o')
    (rest : ∃ o'', Worked w o' room o'') : ∃ o'', Worked w o room o'' := by
  obtain ⟨o'', worked⟩ := rest
  exact ⟨o'', aloof.busy.trans worked.busy, worked.looks, worked.room⟩

private theorem looking_worked (looks : o.workers w = .looking) : ∃ o', Worked w o o.room o' :=
  ⟨o, ⟨.refl, fun _ _ => rfl, rfl, rfl, rfl⟩, looks, rfl⟩

omit [TimeScale τ] in
theorem workers_worker {shift : Shift κ} : (o.worker w shift).workers w = shift :=
  Function.update_self ..

omit [TimeScale τ] in
private theorem workers_worker_of_ne {shift : Shift κ} {other : Nat} (apart : other ≠ w) :
    (o.worker w shift).workers other = o.workers other := Function.update_of_ne apart ..

variable {backend : Tagging.Backend τ κ β} {notice : Tagging.Notice τ κ β} {job : TagJob}

omit [TimeScale τ] in
private theorem attempt_eq {σ α : Type} {work : Act σ α} {s : σ} :
    Act.attempt work s = (.ok (work s).1, (work s).2) := rfl

private theorem publishing_worked {outcome : Except Fault SuggestTagsResponse}
    (outside : ∀ callback job, Outside (notice callback job))
    (here : o.workers w = .publishing job outcome) :
    ∃ o', Worked w o (Tagging.publish notice job outcome o.room).2 o' := by
  have recorded : Tagging.finishJob job outcome o.room =
      (.ok (job.finished outcome (Instant.ofReading o.now), o.room.tagger.callback),
        (Tagging.finishJob job outcome o.room).2) := rfl
  unfold Tagging.publish
  rw [Act.bind_ok recorded]
  refine ShiftStep.follow (.publish (congrArg Prod.fst recorded)) here ?_
  generalize o.room.tagger.callback = callback
  cases callback with
  | none => exact ShiftStep.follow .keepStill workers_worker (looking_worked workers_worker)
  | some callback =>
    refine ShiftStep.follow .tell workers_worker ?_
    obtain ⟨o', aloof, room⟩ := outside callback _ _
    exact ⟨o', aloof.busy, (congrFun aloof.workers w).trans workers_worker, room⟩

private theorem scoped_worked {inner : ScopeId}
    (asked : ∀ inner request, Outside (backend inner request))
    (outside : ∀ callback job, Outside (notice callback job))
    (here : o.workers w = .scoped job inner) :
    ∃ o', Worked w o ((do
      let outcome ← Act.attempt (backend inner
        (Tagging.request o.tagger.config job.content job.existing))
      match outcome with
      | .ok response => Tagging.keep job.content job.existing response.tags
      | .error _ => pure ()
      Tagging.publish notice job outcome) o.room).2 o' := by
  rw [Act.bind_ok attempt_eq]
  refine ShiftStep.follow .ask here ?_
  obtain ⟨o₁, aloof, room⟩ := asked inner
    (Tagging.request o.tagger.config job.content job.existing)
    ((o.note (o.asking (.worker w job.id) inner job.content job.existing)).worker w
      (.awaiting job inner))
  have still : o₁.workers w = .awaiting job inner := (congrFun aloof.workers w).trans workers_worker
  change o₁.room = (backend inner (Tagging.request o.tagger.config job.content job.existing)
    o.room).2 at room
  rw [← room]
  refine aloof.worked ?_
  cases (backend inner (Tagging.request o.tagger.config job.content job.existing) o.room).1 with
  | ok response =>
    refine ShiftStep.follow (@ShiftStep.answer τ κ β _ w o₁ job inner response) still ?_
    refine ShiftStep.follow .keep workers_worker ?_
    exact publishing_worked outside workers_worker
  | error f =>
    refine ShiftStep.follow (@ShiftStep.fail τ κ β _ w o₁ job inner f) still ?_
    exact publishing_worked outside workers_worker

/-- A worker works on a job while nobody else takes a step, except that the backend and whoever is
told do what may happen beside the tagger. -/
theorem process_alone {id : String} (asked : ∀ inner request, Outside (backend inner request))
    (outside : ∀ callback job, Outside (notice callback job))
    (here : o.workers w = .holding id) :
    ∃ o', Worked w o (Tagging.process backend notice id o.room).2 o' := by
  unfold Tagging.process
  cases found : (Tagging.beginJob id o.room).1 with
  | error f => exact nomatch found
  | ok taken =>
    cases taken with
    | none =>
      rw [Act.bind_ok (Tagging.beginJob_unknown found)]
      exact ShiftStep.follow (.unknown found) here (looking_worked workers_worker)
    | some taken =>
      obtain ⟨job, root⟩ := taken
      have begun : Tagging.beginJob id o.room =
          (.ok (some (job, root)), (Tagging.beginJob id o.room).2) := Prod.ext found rfl
      rw [Act.bind_ok begun]
      refine ShiftStep.follow (.start found) here ?_
      refine ShiftStep.follow (.openInner rfl) workers_worker ?_
      exact scoped_worked asked outside workers_worker

/-! ### The end of the work -/

/-- A client who stops the work goes on to a stage, and workers may leave. -/
structure Closes (c : Nat) (stage : StopStage) (o : Office τ κ β) (room : Room τ κ β)
    (o' : Office τ κ β) : Prop where
  leads : Leads o o'
  clients : o'.clients = Function.update o.clients c (.stop stage)
  room : o'.room = room
  door : o'.door = o.door

theorem Closes.after {stage : StopStage} {room : Room τ κ β} (leads : Leads o o')
    (clients : ∀ errand, Function.update o'.clients c errand = Function.update o.clients c errand)
    (door : o'.door = o.door) (rest : ∃ o'', Closes c stage o' room o'') :
    ∃ o'', Closes c stage o room o'' := by
  obtain ⟨o'', closes⟩ := rest
  exact ⟨o'', leads.trans closes.leads, closes.clients.trans (clients _), closes.room,
    closes.door.trans door⟩

/-- Workers who look for a job leave once they are told to, and whoever stops the work sees it. -/
theorem joining_closes {next : Nat} (here : o.clients c = .stop (.joining next))
    (low : next ≤ o.crew) (told : o.signalled = true)
    (resting : ∀ w, o.workers w = .looking ∨ o.workers w = .gone) :
    ∃ o', Closes c .draining o o.room o' := by
  obtain ⟨left, rest⟩ : ∃ left, left = o.crew - next := ⟨_, rfl⟩
  induction left generalizing o next with
  | zero =>
    have all : next = o.crew := by omega
    exact ⟨_, .single (.stop here (.joined all)), rfl, rfl, rfl⟩
  | succ left ih =>
    have comes : next < o.crew := by omega
    -- The next worker leaves, unless it has left already.
    have seen (o₁ : Office τ κ β) (crew : o₁.crew = o.crew) (told : o₁.signalled = true)
        (here : o₁.clients c = .stop (.joining next)) (gone : o₁.workers next = .gone)
        (resting : ∀ w, o₁.workers w = .looking ∨ o₁.workers w = .gone) :
        ∃ o', Closes c .draining o₁ o₁.room o' := by
      refine Closes.after (.single (.stop here (.join (crew ▸ comes) gone)))
        (fun _ => Function.update_idem ..) rfl ?_
      refine ih clients_client ?_ told resting ?_
      · change next + 1 ≤ o₁.crew
        omega
      · change left = o₁.crew - (next + 1)
        omega
    rcases resting next with looking | gone
    · refine Closes.after (.single (.shift looking (.go told))) (fun _ => rfl) rfl ?_
      refine seen (o.worker next .gone) rfl told here workers_worker fun w => ?_
      by_cases same : w = next
      · exact .inr (same ▸ workers_worker)
      · rw [workers_worker_of_ne same]
        exact resting w
    · exact seen o rfl told here gone resting

/-- The jobs that still wait fail one after the other. -/
theorem draining_closes (here : o.clients c = .stop .draining) :
    ∃ o', Closes c .reporting o (Tagging.drain o.room).2 o' := by
  obtain ⟨queue, waiting⟩ : ∃ queue, o.room.tagger.board.queue = queue := ⟨_, rfl⟩
  induction queue generalizing o with
  | nil =>
    rw [Tagging.drain_done waiting]
    exact ⟨_, .single (.stop here (.drained (Tagging.takeWaiting_none.mpr waiting))), rfl, rfl, rfl⟩
  | cons id queue ih =>
    rw [Tagging.drain_next waiting]
    have taken := Tagging.takeWaiting_next waiting
    have found : (Tagging.takeWaiting o.room).1 = .ok (some id) := congrArg Prod.fst taken
    refine Closes.after (.single (.stop here (.take found))) (fun _ => Function.update_idem ..) rfl ?_
    refine Closes.after (.single (.stop clients_client .fail)) (fun _ => Function.update_idem ..) rfl ?_
    refine ih clients_client ?_
    change (Tagging.abandonJob id (Tagging.takeWaiting o.room).2).2.tagger.board.queue = queue
    rw [taken]
    rfl

/-- The work is stopped while nobody else takes a step, except that workers, who have nothing to do,
leave. -/
theorem stop_alone (free : o.clients c = .idle) (unlocked : o.door = none)
    (resting : ∀ w, o.workers w = .looking ∨ o.workers w = .gone) :
    ∃ o', Leads o o' ∧ o'.clients = o.clients ∧ o'.door = none ∧
      o'.room = (Tagging.stop o.room).2 ∧
        (o.tagger.stopped = false → .stopped ∈ o'.log) := by
  have back (errand : Errand τ) :
      Function.update (Function.update o.clients c errand) c .idle = o.clients := by
    rw [Function.update_idem, ← free, Function.update_eq_self]
  have closing : Leads o (((o.client c (.stop .arriving)).lock c).client c (.stop .closing)) :=
    .tail (.single (.aside (.stop free))) (.stop clients_client (.lock unlocked))
  cases halted : o.tagger.stopped with
  | true =>
    rw [Tagging.stop_again halted]
    refine ⟨_, .tail (.tail closing (.stop clients_client (.late ?_)))
      (.stop clients_client .goBack), ?_, rfl, rfl, nofun⟩
    · exact congrArg Except.ok halted
    · simpa [client, lock, unlock] using back .idle
  | false =>
    obtain ⟨o₁, leads, clients, room, door, told, workers⟩ : ∃ o₁, Leads o o₁ ∧
        o₁.clients = Function.update o.clients c (.stop (.joining 0)) ∧
          o₁.room = (Tagging.cancelJobs (Tagging.close o.room).2).2 ∧ o₁.door = none ∧
            o₁.signalled = true ∧ o₁.workers = o.workers := by
      refine ⟨_, .tail (.tail (.tail (.tail closing (.stop clients_client (.close ?_)))
        (.stop clients_client .goOn)) (.stop clients_client .signal))
          (.stop clients_client .cancel), ?_, rfl, rfl, rfl, rfl⟩
      · exact congrArg Except.ok halted
      · simp [client, lock, unlock, note, after]
    have here : o₁.clients c = .stop (.joining 0) := by rw [clients, Function.update_self]
    obtain ⟨o₂, joined⟩ := joining_closes here (Nat.zero_le _) told (workers ▸ resting)
    have here₂ : o₂.clients c = .stop .draining := by rw [joined.clients, Function.update_self]
    obtain ⟨o₃, drained⟩ := draining_closes here₂
    have here₃ : o₃.clients c = .stop .reporting := by rw [drained.clients, Function.update_self]
    refine ⟨_, ((leads.trans joined.leads).trans drained.leads).tail (.stop here₃ .report),
      ?_, ?_, ?_, fun _ => List.mem_append_right _ List.mem_cons_self⟩
    · change Function.update o₃.clients c .idle = o.clients
      rw [drained.clients, joined.clients, clients]
      simpa using back .idle
    · exact (drained.door.trans joined.door).trans door
    · rw [Tagging.stop_first halted, ← room, ← joined.room, ← drained.room]
      rfl

end Office

end MemoAssist

import MemoAssist.Proofs.Scope.Growth
import MemoAssist.Proofs.Tagging.Office
import MemoAssist.Proofs.Tagging.Visits

namespace MemoAssist

variable {τ κ β : Type}

/-- What no visit to the room takes back. -/
structure Room.Steady (room room' : Room τ κ β) : Prop where
  config : room'.tagger.config = room.tagger.config
  root : room'.tagger.root = room.tagger.root
  stopped : room.tagger.stopped = true → room'.tagger.stopped = true
  scopes : Forest.Later room.tagger.root room.world.time.scopes room'.world.time.scopes

/-- The rest of the program keeps to what holds of scopes. -/
theorem Elsewhere.scopes_later [TimeScale τ] {root : Nat} {world : World τ} (e : Elsewhere τ) :
    Forest.Later root world.time.scopes (e.work world).2.time.scopes := by
  cases e with
  | openScope => exact Forest.insert_later
  | cancel => exact Forest.cancel_later
  | cancelAfter => exact .refl
  | advance => exact Timeline.advance_later
  | sleep => exact Timeline.sleep_later
  | draw | report => exact .refl
  | send => exact World.send_later

namespace Office

/-- What no step takes back. -/
structure Steady (o o' : Office τ κ β) : Prop where
  room : o.room.Steady o'.room
  crew : o'.crew = o.crew
  signalled : o.signalled = true → o'.signalled = true
  log : o.log <+: o'.log

variable {o o' o'' : Office τ κ β} {c w : Nat}

@[simp] theorem log_after {α : Type} {work : Room.Work τ κ β α} : (o.after work).log = o.log := rfl

@[simp] theorem log_client {errand : Errand τ} : (o.client c errand).log = o.log := rfl

@[simp] theorem log_worker {shift : Shift κ} : (o.worker w shift).log = o.log := rfl

@[simp] theorem log_note {entry : Happening τ κ} : (o.note entry).log = o.log ++ [entry] := rfl

@[simp] theorem log_lock : (o.lock c).log = o.log := rfl

@[simp] theorem log_unlock : o.unlock.log = o.log := rfl

@[simp] theorem log_reply {d : Demand} {outcome : Except Fault Answer} :
    (o.reply c d outcome).log = o.log ++ [.returned c d outcome] := rfl

theorem clients_client {errand : Errand τ} : (o.client c errand).clients c = errand :=
  Function.update_self ..

theorem clients_client_of_ne {errand : Errand τ} {other : Nat} (apart : other ≠ c) :
    (o.client c errand).clients other = o.clients other := Function.update_of_ne apart ..

theorem Steady.refl : o.Steady o := ⟨⟨rfl, rfl, id, .refl⟩, rfl, id, List.prefix_rfl⟩

theorem Steady.trans (first : o.Steady o') (second : o'.Steady o'') : o.Steady o'' where
  room :=
    ⟨second.room.config.trans first.room.config, second.room.root.trans first.room.root,
      second.room.stopped ∘ first.room.stopped,
      first.room.scopes.trans (first.room.root ▸ second.room.scopes)⟩
  crew := second.crew.trans first.crew
  signalled := second.signalled ∘ first.signalled
  log := first.log.trans second.log

theorem Steady.config (steady : o.Steady o') : o'.tagger.config = o.tagger.config :=
  steady.room.config

theorem steady_after {α : Type} {work : Room.Work τ κ β α}
    (room : o.room.Steady (work o.room).2) : o.Steady (o.after work) :=
  ⟨room, rfl, id, List.prefix_rfl⟩

theorem Steady.client {errand : Errand τ} (steady : o.Steady o') : o.Steady (o'.client c errand) :=
  ⟨steady.room, steady.crew, steady.signalled, steady.log⟩

theorem Steady.worker {shift : Shift κ} (steady : o.Steady o') : o.Steady (o'.worker w shift) :=
  ⟨steady.room, steady.crew, steady.signalled, steady.log⟩

theorem Steady.note {entry : Happening τ κ} (steady : o.Steady o') : o.Steady (o'.note entry) :=
  ⟨steady.room, steady.crew, steady.signalled, steady.log.trans (List.prefix_append _ _)⟩

theorem Steady.reply {d : Demand} {outcome : Except Fault Answer} (steady : o.Steady o') :
    o.Steady (o'.reply c d outcome) := steady.client.note

variable [TimeScale τ]

private theorem steady_after_job {d : Demand} {memo : Int} : o.Steady (o.after (d.job memo)) := by
  obtain ⟨entropy, drawn⟩ := Tagging.newJob_room o.room d.user memo d.content d.existing
  apply steady_after
  rw [Demand.job, drawn]
  exact ⟨rfl, rfl, id, .refl⟩

private theorem steady_after_grant {now : τ} {user : Int} :
    o.Steady (o.after (Tagging.grantAt now user)) := by
  obtain ⟨quota, granted⟩ := Tagging.grantAt_room o.room now user
  apply steady_after
  rw [granted]
  exact ⟨rfl, rfl, id, .refl⟩

theorem CallStep.steady {d : Demand} {stage : CallStage τ} (step : CallStep c d stage o o') :
    o.Steady o' := by
  cases step with
  | enter | read | proceed | tooLate | full => exact Steady.refl.client
  | lock => exact Steady.client ⟨⟨rfl, rfl, id, .refl⟩, rfl, id, List.prefix_rfl⟩
  | leave => exact Steady.reply ⟨⟨rfl, rfl, id, .refl⟩, rfl, id, List.prefix_rfl⟩
  | barred | serve => exact Steady.refl.reply
  | grant => exact steady_after_grant.client
  | overQuota => exact steady_after_grant.reply
  | hit | miss | ask | answer => exact Steady.refl.note.client
  | serveJob => exact steady_after_job.note.reply
  | unserved | unnamed => exact steady_after_job.reply
  | name => exact steady_after_job.note.client
  | record | withdraw => exact (steady_after ⟨rfl, rfl, id, .refl⟩).client
  | openInner => exact (steady_after ⟨rfl, rfl, id, Forest.insert_later⟩).client
  | accept queued =>
    refine (steady_after ?_).note.client
    rw [Tagging.offer_room _ (Tagging.offer_ok.mp queued)]
    exact ⟨rfl, rfl, id, .refl⟩
  | fail => exact Steady.refl.note.reply
  | keep => exact (steady_after ⟨rfl, rfl, id, .refl⟩).note.client
  | report => exact (steady_after ⟨rfl, rfl, id, .refl⟩).reply

theorem StopStep.steady {stage : StopStage} (step : StopStep c stage o o') : o.Steady o' := by
  cases step with
  | lock | goOn | goBack => exact Steady.client ⟨⟨rfl, rfl, id, .refl⟩, rfl, id, List.prefix_rfl⟩
  | close => exact (steady_after ⟨rfl, rfl, fun _ => rfl, .refl⟩).client
  | late | join | joined | drained => exact Steady.refl.client
  | signal => exact Steady.client ⟨⟨rfl, rfl, id, .refl⟩, rfl, fun _ => rfl, List.prefix_rfl⟩
  | cancel => exact (steady_after ⟨rfl, rfl, id, Forest.cancel_later⟩).note.client
  | fail | report => exact (steady_after ⟨rfl, rfl, id, .refl⟩).note.client
  | take found =>
    obtain ⟨queue, _, taken⟩ := Tagging.takeWaiting_some found
    refine (steady_after ?_).client
    rw [taken]
    exact ⟨rfl, rfl, id, .refl⟩

theorem ShiftStep.steady {shift : Shift κ} (step : ShiftStep w shift o o') : o.Steady o' := by
  cases step with
  | look | go | rest | unknown | keepStill => exact Steady.refl.worker
  | fetch found =>
    obtain ⟨queue, _, taken⟩ := Tagging.takeWaiting_some found
    refine (steady_after ?_).worker
    rw [taken]
    exact ⟨rfl, rfl, id, .refl⟩
  | start found =>
    obtain ⟨old, _, _, _, begun⟩ := Tagging.beginJob_some found
    refine (steady_after ?_).note.worker
    rw [begun]
    exact ⟨rfl, rfl, id, .refl⟩
  | openInner => exact (steady_after ⟨rfl, rfl, id, Forest.insert_later⟩).worker
  | ask | answer | fail | tell => exact Steady.refl.note.worker
  | keep | publish => exact (steady_after ⟨rfl, rfl, id, .refl⟩).note.worker

theorem AsideStep.steady (step : AsideStep o o') : o.Steady o' := by
  cases step with
  | call => exact Steady.refl.note.client
  | stop => exact Steady.refl.client
  | look => exact Steady.refl.note
  | tidy | clear => exact (steady_after ⟨rfl, rfl, id, .refl⟩).note
  | setCallback => exact steady_after ⟨rfl, rfl, id, .refl⟩
  | elsewhere e => exact steady_after ⟨rfl, rfl, id, e.scopes_later⟩
  | release other => exact steady_after ⟨rfl, rfl, id, Timeline.release_later other⟩
  | partner => exact ⟨⟨rfl, rfl, id, .refl⟩, rfl, id, List.prefix_rfl⟩

/-! ### One client -/

theorem CallStep.client {d : Demand} {stage : CallStage τ} (step : CallStep c d stage o o') :
    o'.clients c = .idle ∨ ∃ next, o'.clients c = .call d next := by
  cases step <;>
    first
    | exact .inl (Function.update_self ..)
    | exact .inr ⟨_, Function.update_self ..⟩

theorem CallStep.others {d : Demand} {stage : CallStage τ} {c' : Nat}
    (step : CallStep c d stage o o') (apart : c' ≠ c) : o'.clients c' = o.clients c' := by
  cases step <;> exact Function.update_of_ne apart ..

theorem StopStep.client {stage : StopStage} (step : StopStep c stage o o') :
    o'.clients c = .idle ∨ ∃ next, o'.clients c = .stop next := by
  cases step <;>
    first
    | exact .inl (Function.update_self ..)
    | exact .inr ⟨_, Function.update_self ..⟩

theorem StopStep.others {stage : StopStage} {c' : Nat} (step : StopStep c stage o o')
    (apart : c' ≠ c) : o'.clients c' = o.clients c' := by
  cases step <;> exact Function.update_of_ne apart ..

theorem ShiftStep.clients {shift : Shift κ} (step : ShiftStep w shift o o') :
    o'.clients = o.clients := by
  cases step <;> rfl

/-- What a step means for one client: it stays, or goes on itself, or sets out. -/
inductive ClientStep (c : Nat) (o o' : Office τ κ β) : Prop where
  | stays (same : o'.clients c = o.clients c)
  | calls {d stage} (here : o.clients c = .call d stage) (step : CallStep c d stage o o')
  | stops {stage} (here : o.clients c = .stop stage) (step : StopStep c stage o o')
  | begins {d} (free : o.clients c = .idle) (now : o'.clients c = .call d .entering)
  | closes (free : o.clients c = .idle) (now : o'.clients c = .stop .arriving)

theorem Step.client (step : Step o o') (c : Nat) : ClientStep c o o' := by
  cases step with
  | @call d _ _ here step =>
    by_cases same : c = d
    · exact .calls (same ▸ here) (same ▸ step)
    · exact .stays (step.others same)
  | @stop d _ here step =>
    by_cases same : c = d
    · exact .stops (same ▸ here) (same ▸ step)
    · exact .stays (step.others same)
  | shift _ step => exact .stays (congrFun step.clients c)
  | aside step =>
    cases step with
    | @call d _ free =>
      by_cases same : c = d
      · subst same
        exact .begins free (Function.update_self ..)
      · exact .stays (Function.update_of_ne same ..)
    | @stop d free =>
      by_cases same : c = d
      · subst same
        exact .closes free (Function.update_self ..)
      · exact .stays (Function.update_of_ne same ..)
    | _ => exact .stays rfl

theorem Step.steady (step : Step o o') : o.Steady o' := by
  cases step with
  | call _ step => exact step.steady
  | stop _ step => exact step.steady
  | shift _ step => exact step.steady
  | aside step => exact step.steady

theorem Leads.steady (leads : Leads o o') : o.Steady o' := by
  induction leads with
  | refl => exact Steady.refl
  | tail _ step ih => exact ih.trans step.steady

end Office

end MemoAssist

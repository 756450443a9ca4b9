import MemoAssist.Proofs.Tagging.AloneAtWork
import MemoAssist.Proofs.Tagging.CacheHistory
import MemoAssist.Proofs.Tagging.Publishing
import MemoAssist.Proofs.Tagging.Shutdown

/-! Who is told about finished jobs. A run is told along with its bulletins, one for each job that
is published; to each bulletin with somebody to be told belongs one call, which was made or which a
worker is about to make, and no other call is made at all. -/
namespace MemoAssist

variable {τ κ β : Type}

/-- A job as it is published: who is to be told about it at that moment, and what the board has of
it right after. -/
structure Bulletin (κ : Type) where
  job : TagJob
  callback : Option κ
  record : Option TagJob

namespace Bulletin

/-- The call that is owed to a bulletin. -/
def call? (b : Bulletin κ) : Option (κ × TagJob) := b.callback.map fun callback => (callback, b.job)

/-- The bulletins about an id. -/
def about (id : String) (past : List (Bulletin κ)) : List (Bulletin κ) :=
  past.filter fun b => b.job.id = id

private theorem filterMap_singleton (b : Bulletin κ) : [b].filterMap call? = b.call?.toList := by
  cases call : b.call? <;> simp [call]

/-- The calls about an id are those that are owed to the bulletins about it. -/
theorem filterMap_call? (id : String) (past : List (Bulletin κ)) :
    (past.filterMap call?).filter (fun call => call.2.id = id) =
      (about id past).filterMap call? := by
  induction past with
  | nil => rfl
  | cons b rest ih =>
    rw [about] at ih ⊢
    cases callback : b.callback with
    | none =>
      have silent : b.call? = none := by rw [call?, callback]; rfl
      by_cases own : b.job.id = id <;> simp [silent, own, ih]
    | some somebody =>
      have owed : b.call? = some (somebody, b.job) := by rw [call?, callback]; rfl
      by_cases own : b.job.id = id <;> simp [owed, own, ih]

end Bulletin

def Happening.call? : Happening τ κ → Option (κ × TagJob)
  | .told callback job => some (callback, job)
  | _ => none

/-- The call that a worker is about to make. -/
def Shift.duty? : Shift κ → Option (κ × TagJob)
  | .telling (some callback) job => some (callback, job)
  | _ => none

namespace Office

/-- The calls that were made, in their order. -/
def calls (o : Office τ κ β) : List (κ × TagJob) := o.log.filterMap Happening.call?

/-- The calls that workers are about to make. -/
def duties (o : Office τ κ β) : List (κ × TagJob) :=
  (List.range o.crew).filterMap fun w => (o.workers w).duty?

/-- The calls about an id, made or about to be made. -/
def callsAbout (id : String) (o : Office τ κ β) : List (κ × TagJob) :=
  (o.calls ++ o.duties).filter fun call => call.2.id = id

def published (o : Office τ κ β) : List (String × Except Fault SuggestTagsResponse) :=
  o.log.filterMap Happening.published?

/-- What is published of a job with its outcome. -/
def bulletin [TimeScale τ] (job : TagJob) (outcome : Except Fault SuggestTagsResponse)
    (o : Office τ κ β) : Bulletin κ :=
  { job := job.finished outcome (Instant.ofReading o.now)
    callback := o.tagger.callback
    record := (o.after (Tagging.finishJob job outcome)).board.find? job.id }

/-- A run, along with the bulletins of it. -/
inductive Issues [TimeScale τ] (first : Office τ κ β) :
    List (Bulletin κ) → Office τ κ β → Prop where
  | fresh : Issues first [] first
  | publish {past o o' w job outcome} (before : Issues first past o)
      (here : o.workers w = .publishing job outcome)
      (step : ShiftStep w (.publishing job outcome) o o') :
      Issues first (past ++ [o.bulletin job outcome]) o'
  | goOn {past o o'} (before : Issues first past o) (step : Step o o')
      (silent : o'.published = o.published) : Issues first past o'

variable {o o' first : Office τ κ β} {past : List (Bulletin κ)} {c w : Nat} {id : String}

/-! ### Calls and duties -/

/-- When one worker goes on, only this worker's duty changes. -/
theorem duties_update {shift : Shift κ} (inside : w < o.crew) (crew : o'.crew = o.crew)
    (next : o'.workers = Function.update o.workers w shift) : ∃ rest,
      o.duties.Perm ((o.workers w).duty?.toList ++ rest) ∧
        o'.duties.Perm (shift.duty?.toList ++ rest) := by
  have listed : w ∈ List.range o.crew := List.mem_range.mpr inside
  have split : (List.range o.crew).Perm (w :: (List.range o.crew).erase w) :=
    List.perm_cons_erase listed
  have others : ((List.range o.crew).erase w).filterMap (fun v => (o'.workers v).duty?) =
      ((List.range o.crew).erase w).filterMap fun v => (o.workers v).duty? := by
    apply List.filterMap_congr
    intro v member
    have apart : v ≠ w := (List.nodup_range.mem_erase_iff.mp member).1
    rw [next, Function.update_of_ne apart]
  have consed (shifts : Nat → Shift κ) (rest : List Nat) :
      (w :: rest).filterMap (fun v => (shifts v).duty?) =
        (shifts w).duty?.toList ++ rest.filterMap fun v => (shifts v).duty? := by
    cases duty : (shifts w).duty? <;> simp [duty]
  refine ⟨((List.range o.crew).erase w).filterMap fun v => (o.workers v).duty?, ?_, ?_⟩
  · rw [← consed]
    exact split.filterMap _
  · have here : o'.workers w = shift := by rw [next, Function.update_self]
    rw [← others, ← here, ← consed, duties, crew]
    exact split.filterMap _

/-- Only workers of the crew are there. -/
theorem Guarded.present (guarded : o.Guarded) (there : o.workers w ≠ .gone) : w < o.crew := by
  by_contra beyond
  exact there (guarded.crew w (Nat.not_lt.mp beyond))

variable [TimeScale τ]

/-- What a step means for those who are told about jobs. -/
inductive Tidings (o o' : Office τ κ β) : Prop where
  | none (workers : ∀ w, (o'.workers w).duty? = (o.workers w).duty?) (calls : o'.calls = o.calls)
      (silent : o'.published = o.published)
  | told {w callback job} (here : o.workers w = .telling (some callback) job)
      (next : o'.workers = Function.update o.workers w .looking)
      (calls : o'.calls = o.calls ++ [(callback, job)]) (silent : o'.published = o.published)
  | published {w job outcome} (here : o.workers w = .publishing job outcome)
      (step : ShiftStep w (.publishing job outcome) o o')

theorem CallStep.tidings {d : Demand} {stage : CallStage τ} (step : CallStep c d stage o o') :
    Tidings o o' := by
  cases step <;>
    exact .none (fun _ => rfl)
      (by simp [calls, Happening.call?, recalling, asking, storing])
      (by simp [published, Happening.published?, recalling, asking, storing])

theorem StopStep.tidings {stage : StopStage} (step : StopStep c stage o o') : Tidings o o' := by
  cases step <;>
    exact .none (fun _ => rfl) (by simp [calls, Happening.call?])
      (by simp [published, Happening.published?])

theorem AsideStep.tidings (step : AsideStep o o') : Tidings o o' := by
  cases step <;>
    exact .none (fun _ => rfl) (by simp [calls, Happening.call?])
      (by simp [published, Happening.published?])

theorem ShiftStep.tidings {shift : Shift κ} (step : ShiftStep w shift o o')
    (here : o.workers w = shift) : Tidings o o' := by
  have idle {next : Shift κ} (before : shift.duty? = .none) (after : next.duty? = .none) (v : Nat) :
      (Function.update o.workers w next v).duty? = (o.workers v).duty? := by
    by_cases same : v = w
    · rw [same, Function.update_self, here, before, after]
    · rw [Function.update_of_ne same]
  cases step with
  | publish recorded => exact .published here (.publish recorded)
  | tell =>
    exact .told here rfl (by simp [calls, Happening.call?])
      (by simp [published, Happening.published?])
  | look | go | fetch | rest | start | unknown | openInner | ask | answer | fail | keep
  | keepStill =>
    exact .none (idle rfl rfl) (by simp [calls, Happening.call?, asking, storing])
      (by simp [published, Happening.published?, asking, storing])

theorem Step.tidings (step : Step o o') : Tidings o o' := by
  cases step with
  | call _ step => exact step.tidings
  | stop _ step => exact step.tidings
  | shift here step => exact step.tidings here
  | aside step => exact step.tidings

/-- What a worker does who publishes a job. -/
theorem ShiftStep.publishing {job : TagJob} {outcome : Except Fault SuggestTagsResponse}
    (step : ShiftStep w (.publishing job outcome) o o') :
    o'.workers = Function.update o.workers w
        (.telling o.tagger.callback (job.finished outcome (Instant.ofReading o.now))) ∧
      o'.calls = o.calls ∧ o'.published = o.published ++ [(job.id, outcome)] ∧
        o'.board = (o.after (Tagging.finishJob job outcome)).board := by
  cases step with
  | publish recorded =>
    cases recorded
    exact ⟨rfl, by simp [calls, Happening.call?], by simp [published, Happening.published?], rfl⟩

/-! ### Every run and its bulletins -/

theorem Issues.leads (issues : Issues first past o) : Leads first o := by
  induction issues with
  | fresh => exact .refl
  | publish _ here step ih => exact ih.tail (.shift here step)
  | goOn _ step _ ih => exact ih.tail step

/-- Every run has bulletins. -/
theorem Leads.issues (leads : Leads first o) : ∃ past, Issues first past o := by
  induction leads with
  | refl => exact ⟨[], .fresh⟩
  | tail _ step ih =>
    obtain ⟨past, issues⟩ := ih
    cases step.tidings with
    | none _ _ silent => exact ⟨past, .goOn issues step silent⟩
    | told _ _ _ silent => exact ⟨past, .goOn issues step silent⟩
    | published here published => exact ⟨_, .publish issues here published⟩

/-- There is a bulletin for every job that is published, and for no other. -/
theorem Issues.complete (issues : Issues first past o) (unpublished : first.published = []) :
    past.map (fun b => b.job.id) = o.published.map Prod.fst := by
  induction issues with
  | fresh => rw [unpublished]; rfl
  | publish _ _ step ih =>
    obtain ⟨-, -, published, -⟩ := step.publishing
    rw [published, List.map_append, List.map_append, ih]
    simp [bulletin]
  | goOn _ _ silent ih => rw [silent, ih]

private theorem duty?_telling (callback : Option κ) (job : TagJob) :
    (Shift.telling callback job).duty? = callback.map fun callback => (callback, job) := by
  cases callback <;> rfl

/-- A step that publishes nothing calls what was about to be called. -/
theorem Tidings.matched (tidings : Tidings o o') (guarded : o.Guarded) (crew : o'.crew = o.crew)
    (silent : o'.published = o.published) :
    (o'.calls ++ o'.duties).Perm (o.calls ++ o.duties) := by
  cases tidings with
  | none workers calls =>
    have same : o'.duties = o.duties := by
      rw [duties, duties, crew]
      exact List.filterMap_congr fun w _ => workers w
    rw [calls, same]
  | told here next calls =>
    obtain ⟨rest, before, after⟩ := duties_update (guarded.present (by rw [here]; nofun)) crew next
    rw [here] at before
    rw [calls, List.append_assoc]
    exact ((after.append_left _).trans before.symm).append_left _
  | published here step =>
    obtain ⟨-, -, published, -⟩ := step.publishing
    rw [published] at silent
    simp at silent

/-- A worker who publishes a job is about to make the call that is owed to the bulletin. -/
theorem ShiftStep.matched {job : TagJob} {outcome : Except Fault SuggestTagsResponse}
    (step : ShiftStep w (.publishing job outcome) o o')
    (here : o.workers w = .publishing job outcome) (guarded : o.Guarded) :
    (o'.calls ++ o'.duties).Perm
      ((o.calls ++ o.duties) ++ (o.bulletin job outcome).call?.toList) := by
  obtain ⟨next, calls, -, -⟩ := step.publishing
  obtain ⟨rest, before, after⟩ :=
    duties_update (guarded.present (by rw [here]; nofun)) step.steady.crew next
  rw [here] at before
  rw [duty?_telling] at after
  rw [calls, List.append_assoc]
  exact (after.trans (List.perm_append_comm.trans (before.symm.append_right _))).append_left _

variable {config : TaggingConfig τ} {world : World τ} {partner : β} {crew : Nat}

/-- Exactly the calls that are owed to bulletins were made or are about to be made. -/
theorem Issues.matched (issues : Issues (start config world partner crew) past o) :
    (o.calls ++ o.duties).Perm (past.filterMap Bulletin.call?) := by
  induction issues with
  | fresh =>
    have idle : (start config world partner crew : Office τ κ β).duties = [] := by
      apply List.filterMap_eq_nil_iff.mpr
      intro w _
      simp only [start]
      split <;> rfl
    rw [idle]
    exact .nil
  | publish before here step ih =>
    have guarded := Leads.guarded before.leads guarded_start
    rw [List.filterMap_append, Bulletin.filterMap_singleton]
    exact (step.matched here guarded).trans (ih.append_right _)
  | goOn before step silent ih =>
    have guarded := Leads.guarded before.leads guarded_start
    exact (step.tidings.matched guarded step.steady.crew silent).trans ih

/-! ### One id -/

omit [TimeScale τ] in
theorem count_before (steady : o.Steady o')
    (once : (o'.log.filterMap Happening.drawn?).count id ≤ 1) :
    (o.log.filterMap Happening.drawn?).count id ≤ 1 :=
  ((steady.log.filterMap Happening.drawn?).sublist.count_le id).trans once

theorem sound_about (leads : Leads (start config world partner crew) o)
    (once : (o.log.filterMap Happening.drawn?).count id ≤ 1) : (o.ledger.about id).Sound 0 :=
  (Ledger.Run.single (ledger_of_start leads) once).1

/-- What holds of the bulletin of a job from when it is published: nothing will be done under its id
any more, and its record is never changed again. -/
structure Standing (o : Office τ κ β) (b : Bulletin κ) : Prop where
  record : b.record = some b.job
  final : b.job.status.isFinal = true
  settled : (o.ledger.about b.job.id).Settled b.job.id
  kept : o.board.find? b.job.id = some b.job ∨ o.board.find? b.job.id = none

theorem Standing.step {b : Bulletin κ} (standing : o.Standing b)
    (leads : Leads (start config world partner crew) o) (step : Step o o')
    (once : (o'.log.filterMap Happening.drawn?).count b.job.id ≤ 1) : o'.Standing b := by
  have sound := sound_about leads (count_before step.steady once)
  obtain ⟨settled, record⟩ := step.ledger.about.settled sound (Ledger.distinct_about once)
    standing.settled
  refine ⟨standing.record, standing.final, settled, ?_⟩
  have later : o'.board.find? b.job.id = o.board.find? b.job.id ∨
      o'.board.find? b.job.id = none := by
    simpa [ledger, Ledger.about, JobBoard.find?_about] using record
  rcases later with same | gone
  · rw [same]
    exact standing.kept
  · exact .inr gone

/-- A job that is published stands as the bulletin says. -/
theorem standing_of_publishing {job : TagJob} {outcome : Except Fault SuggestTagsResponse}
    (step : ShiftStep w (.publishing job outcome) o o')
    (here : o.workers w = .publishing job outcome)
    (leads : Leads (start config world partner crew) o)
    (once : (o'.log.filterMap Happening.drawn?).count job.id ≤ 1) :
    o'.Standing (o.bulletin job outcome) ∧ ¬ (o.ledger.about job.id).Settled job.id := by
  have holds : o.ledger.hold (.worker w) = some (.asked job) := by
    change (o.workers w).hold? = _
    rw [here]
    rfl
  have own := Ledger.about_hold holds rfl
  have sound := sound_about leads (count_before step.steady once)
  obtain ⟨-, -, known, -⟩ := (sound.place job.id).of_hold (h := .asked job) own
  obtain ⟨-, -, -, board⟩ := step.publishing
  have found : o.board.find? job.id = some job := JobBoard.find?_about.symm.trans known
  have finished : (job.finished outcome (Instant.ofReading o.now)).id = job.id := TagJob.finished_id
  have recorded : (o.after (Tagging.finishJob job outcome)).board.find? job.id =
      some (job.finished outcome (Instant.ofReading o.now)) :=
    (Ledger.change_found (job.finished outcome (Instant.ofReading o.now)) found finished).1
  have sound' := sound_about (leads.tail (.shift here step)) once
  have now : o'.board.find? job.id = some (job.finished outcome (Instant.ofReading o.now)) := by
    rw [board]
    exact recorded
  refine ⟨⟨recorded, TagJob.finished_final, ?_, .inl ?_⟩, fun settled => settled.free _ _ own rfl⟩
  · change (o'.ledger.about (job.finished _ _).id).Settled (job.finished _ _).id
    rw [finished]
    exact sound'.settled (JobBoard.find?_about.trans now) TagJob.finished_final
  · change o'.board.find? (job.finished _ _).id = _
    rw [finished]
    exact now

/-- Under an id that was drawn once at most, one job at most is ever published. -/
theorem Issues.single (issues : Issues (start config world partner crew) past o)
    (once : (o.log.filterMap Happening.drawn?).count id ≤ 1) :
    Bulletin.about id past = [] ∨
      ∃ b, Bulletin.about id past = [b] ∧ b.job.id = id ∧ o.Standing b := by
  induction issues with
  | fresh => exact .inl rfl
  | @publish past o o' w job outcome before here step ih =>
    have step' : Step o o' := .shift here step
    have more : Bulletin.about id (past ++ [o.bulletin job outcome]) =
        Bulletin.about id past ++ Bulletin.about id [o.bulletin job outcome] :=
      List.filter_append ..
    have named : (o.bulletin job outcome).job.id = job.id := TagJob.finished_id
    by_cases own : job.id = id
    · subst own
      obtain ⟨standing, unsettled⟩ := standing_of_publishing step here before.leads once
      have new : Bulletin.about job.id [o.bulletin job outcome] = [o.bulletin job outcome] := by
        simp [Bulletin.about, named]
      rcases ih (count_before step'.steady once) with none | ⟨b, -, same, settled⟩
      · exact .inr ⟨_, by rw [more, none, new]; rfl, named, standing⟩
      · exact absurd (same ▸ settled.settled) unsettled
    · have new : Bulletin.about id [o.bulletin job outcome] = [] := by
        simp [Bulletin.about, named, own]
      rw [more, new, List.append_nil]
      rcases ih (count_before step'.steady once) with none | ⟨b, only, rfl, standing⟩
      · exact .inl none
      · exact .inr ⟨b, only, rfl, standing.step before.leads step' once⟩
  | goOn before step silent ih =>
    rcases ih (count_before step.steady once) with none | ⟨b, only, rfl, standing⟩
    · exact .inl none
    · exact .inr ⟨b, only, rfl, standing.step before.leads step once⟩

/-! ### Jobs that are never published -/

theorem Step.spent (step : Step o o') (leads : Leads (start config world partner crew) o)
    (once : (o'.log.filterMap Happening.drawn?).count id ≤ 1)
    (spent : (o.ledger.about id).Spent id) : (o'.ledger.about id).Spent id :=
  step.ledger.about.spent (sound_about leads (count_before step.steady once))
    (Ledger.distinct_about once) spent

/-- What leaves an id spent whenever it happens has left it so wherever it has happened. -/
theorem spent_since {happened : Happening τ κ} (leads : Leads (start config world partner crew) o)
    (once : (o.log.filterMap Happening.drawn?).count id ≤ 1) (there : happened ∈ o.log)
    (leaves : ∀ {o o'}, Leads (start config world partner crew) o → Step o o' →
      (o'.log.filterMap Happening.drawn?).count id ≤ 1 → happened ∈ o'.log →
        happened ∈ o.log ∨ (o'.ledger.about id).Spent id) : (o.ledger.about id).Spent id := by
  induction leads with
  | refl => exact (List.not_mem_nil there).elim
  | tail leads step ih =>
    rcases leaves leads step once there with earlier | spent
    · exact step.spent leads once (ih (count_before step.steady once) earlier)
    · exact spent

/-- A job that was failed in the queue: either this was before, or a client does it now. -/
theorem Step.abandoned (step : Step o o') (abandoned : .abandoned id ∈ o'.log) :
    .abandoned id ∈ o.log ∨ ∃ c, o.clients c = .stop (.failing id) ∧
      o' = ((o.after (Tagging.abandonJob id)).note (.abandoned id)).client c (.stop .draining) := by
  cases step with
  | call _ step => cases step <;> exact .inl (by simpa [recalling, asking, storing] using abandoned)
  | shift _ step => cases step <;> exact .inl (by simpa [asking, storing] using abandoned)
  | aside step => cases step <;> exact .inl (by simpa using abandoned)
  | stop here step =>
    cases step with
    | @fail _ other =>
      rcases List.mem_append.mp abandoned with before | now
      · exact .inl before
      · cases List.mem_singleton.mp now
        exact .inr ⟨_, here, rfl⟩
    | _ => exact .inl (by simpa using abandoned)

private theorem spent_of_abandoned (leads : Leads (start config world partner crew) o)
    (once : (o.log.filterMap Happening.drawn?).count id ≤ 1) (abandoned : .abandoned id ∈ o.log) :
    (o.ledger.about id).Spent id := by
  refine spent_since leads once abandoned ?_
  intro o o' leads step once abandoned
  refine (step.abandoned abandoned).imp_right ?_
  rintro ⟨c, here, rfl⟩
  have holds : o.ledger.hold (.client c) = some (.taken id) := by
    change (o.clients c).hold? = _
    rw [here]
    rfl
  have sound := sound_about leads (count_before step.steady once)
  obtain ⟨-, -, job, known, pending, unasked⟩ :=
    (sound.place id).of_hold (h := .taken id) (Ledger.about_hold holds rfl)
  have found : o.board.find? id = some job := JobBoard.find?_about.symm.trans known
  let failed := JobBoard.abandon (Instant.ofReading o.now) job
  have recorded : ((((o.after (Tagging.abandonJob id)).note (.abandoned id)).client c
      (.stop .draining)).ledger.about id).board.find? id = some failed := by
    rw [ledger_client, ledger_note]
    refine JobBoard.find?_about.trans ?_
    change (o.board.change id (JobBoard.abandon (Instant.ofReading o.now))).find? id = _
    rw [Ledger.find?_abandon, if_pos rfl, found]
    rfl
  have final : failed.status.isFinal = true := by
    simp [failed, JobBoard.abandon, pending, TagJob.finished_final]
  refine ⟨(sound_about (leads.tail step) once).settled recorded final, ?_⟩
  rw [ledger_client, ledger_note]
  exact unasked

/-- A finished job that a client comes back with: either it did before, or its id is drawn now. -/
theorem Step.served {d : Demand} {job : TagJob} (step : Step o o') (coursing : o.Coursing)
    (served : .returned c d (.ok (.job job)) ∈ o'.log) (completed : job.status = .completed) :
    .returned c d (.ok (.job job)) ∈ o.log ∨
      o'.ledger = { o.ledger with drawn := o.ledger.drawn ++ [job.id] } := by
  cases step with
  | stop _ step => cases step <;> exact .inl (by simpa using served)
  | shift _ step => cases step <;> exact .inl (by simpa [asking, storing] using served)
  | aside step => cases step <;> exact .inl (by simpa using served)
  | @call caller demand stage here step =>
    cases step with
    | @serveJob _ memo tags named later drew =>
      rcases List.mem_append.mp served with before | now
      · exact .inl (by simpa using before)
      · cases List.mem_singleton.mp now
        have empty : (o.ledger.notice (.drew named.id : Happening τ κ)).hold (.client c) = none :=
          congrArg Errand.hold? here
        rw [ledger_reply, ledger_note, ledger_after_job, Ledger.put_same empty, TagJob.finished_id]
        exact .inr rfl
    | @leave _ outcome =>
      rcases List.mem_append.mp served with before | now
      · exact .inl before
      · -- Whoever comes back with a job that was handed in comes back with one that waits.
        obtain ⟨sofar, -, course⟩ := coursing.client caller demand _ here
        cases outcome with
        | error f => cases List.mem_singleton.mp now
        | ok other =>
          cases List.mem_singleton.mp now
          cases completed.symm.trans course
    | _ => exact .inl (by simpa [recalling, asking, storing] using served)

omit [TimeScale τ] in
/-- An id that is drawn now, once and for all, was not drawn before. -/
theorem undrawn_of_drawn (once : (o'.log.filterMap Happening.drawn?).count id ≤ 1)
    (drawn : o'.ledger = { o.ledger with drawn := o.ledger.drawn ++ [id] }) :
    id ∉ o.ledger.drawn := by
  intro member
  have earlier := List.count_pos_iff.mpr member
  change o'.ledger.drawn.count id ≤ 1 at once
  rw [drawn, List.count_append, List.count_singleton_self] at once
  omega

private theorem spent_of_served {d : Demand} {job : TagJob}
    (leads : Leads (start config world partner crew) o)
    (served : .returned c d (.ok (.job job)) ∈ o.log) (completed : job.status = .completed)
    (once : (o.log.filterMap Happening.drawn?).count job.id ≤ 1) :
    (o.ledger.about job.id).Spent job.id := by
  refine spent_since leads once served ?_
  intro o o' leads step once served
  refine (step.served (Leads.coursing leads coursing_start) served completed).imp_right ?_
  intro drawn
  have fresh : job.id ∉ (o.ledger.about job.id).drawn :=
    fun member => undrawn_of_drawn once drawn (List.mem_of_mem_filter member)
  have about : o'.ledger.about job.id = { o.ledger.about job.id with
      drawn := (o.ledger.about job.id).drawn ++ [job.id] } := by
    rw [drawn]
    simp [Ledger.about]
  rw [about]
  exact (sound_about leads (count_before step.steady once)).spent_of_drawn fresh

/-! ### Who is told -/

omit [TimeScale τ] in
private theorem callsAbout_perm (matched : (o.calls ++ o.duties).Perm (past.filterMap Bulletin.call?))
    (id : String) : (o.callsAbout id).Perm ((Bulletin.about id past).filterMap Bulletin.call?) := by
  rw [← Bulletin.filterMap_call?]
  exact matched.filter _

/-- Nobody is told about a job that was never published. -/
theorem Issues.unpublished (issues : Issues (start config world partner crew) past o)
    (never : ∀ outcome, (id, outcome) ∉ o.published) :
    Bulletin.about id past = [] ∧ o.callsAbout id = [] := by
  have none : Bulletin.about id past = [] := by
    apply List.filter_eq_nil_iff.mpr
    intro b member own
    have named : b.job.id = id := of_decide_eq_true own
    have issued : id ∈ past.map fun b => b.job.id := named ▸ List.mem_map_of_mem member
    rw [issues.complete rfl] at issued
    obtain ⟨⟨other, outcome⟩, published, rfl⟩ := List.mem_map.mp issued
    exact never outcome published
  refine ⟨none, List.perm_nil.mp ?_⟩
  have owed := callsAbout_perm issues.matched id
  rwa [none] at owed

/-- Nobody is told about a job under an id for which nobody asked the backend and nobody will. -/
theorem Issues.spent (issues : Issues (start config world partner crew) past o)
    (spent : (o.ledger.about id).Spent id) : o.callsAbout id = [] := by
  have run : Ledger.Run 0 Ledger.blank (o.ledger.about id) :=
    Ledger.Run.about (ledger_of_start issues.leads)
  refine (issues.unpublished fun outcome published => ?_).2
  apply (Ledger.Run.chained run).unpublished spent outcome
  exact List.mem_filter.mpr ⟨published, decide_eq_true rfl⟩

/-- Who was told about finished jobs in a run, and who is about to be. -/
structure Notified (past : List (Bulletin κ)) (o : Office τ κ β) : Prop where
  /-- There is a bulletin for every job that was published. -/
  complete : past.map (fun b => b.job.id) = o.published.map Prod.fst
  /-- To each bulletin belongs one call to whoever was to be told at that moment, if anybody was,
  and there is no other call. -/
  matched : (o.calls ++ o.duties).Perm (past.filterMap Bulletin.call?)
  /-- Once the work has ended, nobody is about to be told. -/
  ended : .stopped ∈ o.log → o.duties = []
  /-- A job with an id of its own is published once at most, and told about as the board has it. -/
  single : ∀ id, (o.log.filterMap Happening.drawn?).count id ≤ 1 →
    Bulletin.about id past = [] ∧ o.callsAbout id = [] ∨
      ∃ b, Bulletin.about id past = [b] ∧ o.callsAbout id = b.call?.toList ∧ o.Standing b
  /-- Nobody is told about a job that was not accepted, -/
  rejected : ∀ id, .accepted id ∉ o.log → o.callsAbout id = []
  /-- or that was served from the cache, -/
  served : ∀ c d job, .returned c d (.ok (.job job)) ∈ o.log → job.status = .completed →
    (o.log.filterMap Happening.drawn?).count job.id ≤ 1 → o.callsAbout job.id = []
  /-- or that was failed in the queue when the work stopped. -/
  abandoned : ∀ id, (o.log.filterMap Happening.drawn?).count id ≤ 1 → .abandoned id ∈ o.log →
    o.callsAbout id = []

private theorem Issues.notified (issues : Issues (start config world partner crew) past o) :
    Notified past o where
  complete := issues.complete rfl
  matched := issues.matched
  ended halted := by
    have gone := ((Leads.guarded issues.leads guarded_start).halted halted).2.1
    apply List.filterMap_eq_nil_iff.mpr
    intro w _
    rw [gone w]
    rfl
  single id once := by
    have owed := callsAbout_perm issues.matched id
    rcases issues.single once with none | ⟨b, only, -, standing⟩
    · rw [none] at owed
      exact .inl ⟨none, List.perm_nil.mp owed⟩
    · rw [only, Bulletin.filterMap_singleton] at owed
      refine .inr ⟨b, only, ?_, standing⟩
      cases call : b.call? with
      | none =>
        rw [call] at owed
        exact List.perm_nil.mp owed
      | some call' =>
        rw [call] at owed
        exact List.perm_singleton.mp owed
  rejected id unaccepted := by
    have chained := Ledger.Run.chained (ledger_of_start issues.leads)
    refine (issues.unpublished fun outcome published => unaccepted ?_).2
    exact mem_accepted.mp (chained.published id outcome published).1
  served c d job returned completed once :=
    issues.spent (spent_of_served issues.leads returned completed once)
  abandoned id once failed := issues.spent (spent_of_abandoned issues.leads once failed)

end Office

namespace Tagging

open Room

variable [TimeScale τ] {backend : Backend τ κ β} {notice : Notice τ κ β}

/-- Whoever is told does the same and never fails. -/
def muffled (notice : Notice τ κ β) : Notice τ κ β := fun callback job room =>
  (.ok (), (notice callback job room).2)

private theorem publish_muffled (job : TagJob) (outcome : Except Fault SuggestTagsResponse) :
    publish (muffled notice) job outcome = publish notice job outcome := by
  funext room
  have recorded : finishJob job outcome room =
      (.ok (job.finished outcome (Instant.ofReading room.world.time.now), room.tagger.callback),
        (finishJob job outcome room).2) := rfl
  rw [publish, publish, Act.bind_ok recorded, Act.bind_ok recorded]
  cases room.tagger.callback <;> rfl

/-- It makes no difference to any work whether somebody who is told fails. -/
theorem work_muffled (limit : Nat) :
    work backend (muffled notice) limit = work backend notice limit := by
  induction limit with
  | zero => rfl
  | succ limit ih => simp only [work, process, publish_muffled, ih]

end Tagging

namespace Office

variable [TimeScale τ] {o : Office τ κ β} {config : TaggingConfig τ} {world : World τ} {partner : β}
  {crew w : Nat}

/-- Whatever the order of steps, and whoever is to be told at which time: of each job that is
published, who is to be told at that moment is told once, and nobody else is told anything; and
whether they fail over it makes no difference. -/
theorem toldOnce (leads : Leads (start config world partner crew) o) :
    (∃ past, Issues (start config world partner crew) past o) ∧
      (∀ past, Issues (start config world partner crew) past o → Notified past o) ∧
      ∀ (backend : Tagging.Backend τ κ β) (notice : Tagging.Notice τ κ β) (limit : Nat),
        Tagging.work backend notice limit = Tagging.work backend (Tagging.muffled notice) limit :=
  ⟨leads.issues, fun _ issues => issues.notified,
    fun _ _ limit => (Tagging.work_muffled limit).symm⟩

/-- A worker who publishes a job may go on to tell whoever is to be told. -/
theorem told_of_publishing {job : TagJob} {outcome : Except Fault SuggestTagsResponse}
    {callback : κ} (here : o.workers w = .publishing job outcome)
    (somebody : o.tagger.callback = some callback) :
    ∃ o', Leads o o' ∧
      o'.calls = o.calls ++ [(callback, job.finished outcome (Instant.ofReading o.now))] := by
  refine ⟨_, .tail (.tail .refl (.shift here (.publish rfl)))
    (.shift (workers_worker.trans (congrArg (Shift.telling · _) somebody)) .tell), ?_⟩
  simp only [calls, log_worker, log_note, List.filterMap_append, List.append_assoc]
  rfl

/-- A worker who finds one job waiting may come to tell somebody about it. -/
theorem told_of_waiting {job : TagJob} {callback : κ} (looking : o.workers w = .looking)
    (stay : o.signalled = false) (queue : o.board.queue = [job.id])
    (found : o.board.find? job.id = some job) (somebody : o.tagger.callback = some callback) :
    ∃ o' told, Leads o o' ∧ told.id = job.id ∧ o'.calls = o.calls ++ [(callback, told)] := by
  have taken : Tagging.takeWaiting (o.worker w .fetching).room = _ := Tagging.takeWaiting_next queue
  let holding := ((o.worker w .fetching).after Tagging.takeWaiting).worker w (.holding job.id)
  have known : holding.room.tagger.board.find? job.id = some job := by
    change (Tagging.takeWaiting (o.worker w .fetching).room).2.tagger.board.find? job.id = _
    rw [taken]
    exact found
  have begun : (Tagging.beginJob job.id holding.room).1 =
      .ok (some (job.atWork, holding.room.tagger.root)) := by
    simp [Tagging.beginJob, Room.onTagger, Act.within, Act.step, JobBoard.begin?, known]
  obtain ⟨_, _, _, _, room⟩ := Tagging.beginJob_some begun
  have callback' : (Tagging.beginJob job.id holding.room).2.tagger.callback = some callback := by
    rw [room]
    change (Tagging.takeWaiting (o.worker w .fetching).room).2.tagger.callback = _
    rw [taken]
    exact somebody
  let started := ((holding.after (Tagging.beginJob job.id)).note (.begun job.id)).worker w
    (.started job.atWork holding.room.tagger.root)
  have leads : Leads o started := .tail (.tail (.tail .refl
    (.shift looking (.look stay)))
    (.shift workers_worker (.fetch (congrArg Prod.fst taken))))
    (.shift workers_worker (.start begun))
  obtain ⟨publishing, more, here, somebody', uncalled⟩ : ∃ publishing : Office τ κ β,
      Leads started publishing ∧
        publishing.workers w = .publishing job.atWork (.error (.of .cancelled)) ∧
          publishing.tagger.callback = some callback ∧ publishing.calls = started.calls := by
    refine ⟨_, .tail (.tail (.tail .refl
      (.shift workers_worker (.openInner rfl)))
      (.shift workers_worker .ask))
      (.shift workers_worker (@ShiftStep.fail τ κ β _ w _ job.atWork _ (.of .cancelled))),
      workers_worker, callback', ?_⟩
    simp [calls, Happening.call?, asking]
  obtain ⟨o', rest, called⟩ := told_of_publishing here somebody'
  let told := job.atWork.finished (.error (.of .cancelled)) (Instant.ofReading publishing.now)
  refine ⟨o', told, (leads.trans more).trans rest, TagJob.finished_id, ?_⟩
  rw [called, uncalled]
  simp [calls, Happening.call?, started, holding, told]

/-- A job is handed in while somebody is to be told, and worked on. -/
theorem toldOnce_of_callback : ∃ (o : Office Int Unit Unit) (id : String),
    Leads (start .usual (World.start (Client.ofReplies [])) () 1) o ∧
      (o.calls.map fun call => call.2.id) = [id] ∧ ∃ past,
        Issues (start .usual (World.start (Client.ofReplies [])) () 1) past o ∧
          Notified past o := by
  let d : Demand := ⟨1, "a memo", [], .later 1⟩
  have run : ∃ (o : Office Int Unit Unit) (job : TagJob),
      Leads (start .usual (World.start (Client.ofReplies [])) () 1) o ∧
        o.workers 0 = .looking ∧ o.signalled = false ∧ o.board = ⟨[job], [job.id]⟩ ∧
          o.tagger.callback = some () ∧ o.calls = [] :=
    ⟨_, _, .tail (.tail (.tail (.tail (.tail (.tail (.tail (.tail (.tail (.tail (.tail (.tail .refl
      (.aside (@AsideStep.setCallback Int Unit Unit _ _ (some ()))))
      (.aside (.call (c := 0) (d := d) rfl)))
      (.call clients_client (.enter rfl)))
      (.call clients_client .read))
      (.call clients_client (.grant rfl)))
      (.call clients_client (.miss rfl)))
      (.call clients_client (.name rfl rfl)))
      (.call clients_client (.lock rfl)))
      (.call clients_client (.proceed rfl)))
      (.call clients_client .record))
      (.call clients_client (.accept rfl)))
      (.call clients_client .leave), rfl, rfl, rfl, rfl, rfl⟩
  obtain ⟨o, job, leads, looking, stay, board, somebody, uncalled⟩ := run
  have found : o.board.find? job.id = some job := by simp [board, JobBoard.find?]
  obtain ⟨o', told, more, named, called⟩ :=
    told_of_waiting looking stay (congrArg JobBoard.queue board) found somebody
  have leads' := leads.trans more
  obtain ⟨⟨past, issues⟩, notified, -⟩ := toldOnce leads'
  refine ⟨o', job.id, leads', ?_, past, issues, notified past issues⟩
  rw [called, uncalled]
  exact congrArg (fun id => [id]) named

end Office

end MemoAssist

import MemoAssist.Proofs.Tagging.Steady

namespace MemoAssist

variable {τ κ β : Type}

namespace Office

variable {o o' : Office τ κ β} {c w : Nat}

/-- Where the scopes of requests for jobs belong. -/
structure Rooted (o : Office τ κ β) : Prop where
  inside : o.tagger.root < o.room.world.time.scopes.length
  heeds : Forest.Heeds o.tagger.root o.room.world.time.scopes
  started : ∀ w job root, o.workers w = .started job root → root = o.tagger.root
  under : ∀ w job inner, o.workers w = .scoped job inner ∨ o.workers w = .awaiting job inner →
    o.tagger.root < inner ∧ ∃ scope : Scope τ, o.room.world.time.scopes[inner]? = some scope ∧
      scope.parent = some o.tagger.root
  cancelled : .cancelled ∈ o.log → o.room.world.time.isCancelled o.tagger.root = true

theorem Rooted.scopes (rooted : o.Rooted) (steady : o.Steady o') :
    o'.tagger.root < o'.room.world.time.scopes.length ∧
      Forest.Heeds o'.tagger.root o'.room.world.time.scopes := by
  have later := steady.room.scopes
  have root : o'.tagger.root = o.tagger.root := steady.room.root
  rw [root]
  obtain ⟨scope', found, _⟩ := later.kept o.tagger.root _ (List.getElem?_eq_getElem rooted.inside)
  exact ⟨(List.getElem?_eq_some_iff.mp found).1, later.heeds rooted.heeds⟩

/-- A step keeps the scopes of requests in their place if the worker who makes it does. -/
theorem Rooted.step (rooted : o.Rooted) (steady : o.Steady o')
    (started : ∀ w job root, o'.workers w = .started job root →
      o.workers w = .started job root ∨ root = o.tagger.root)
    (under : ∀ w job inner, o'.workers w = .scoped job inner ∨ o'.workers w = .awaiting job inner →
      (∃ job, o.workers w = .scoped job inner ∨ o.workers w = .awaiting job inner) ∨
        o.tagger.root < inner ∧
          ∃ scope : Scope τ, o'.room.world.time.scopes[inner]? = some scope ∧
            scope.parent = some o.tagger.root)
    (cancelled : .cancelled ∈ o'.log → .cancelled ∈ o.log ∨
      o'.room.world.time.isCancelled o.tagger.root = true) : o'.Rooted where
  inside := (rooted.scopes steady).1
  heeds := (rooted.scopes steady).2
  started w job root here := by
    rw [show o'.tagger.root = o.tagger.root from steady.room.root]
    rcases started w job root here with before | now
    · exact rooted.started w job root before
    · exact now
  under w job inner here := by
    rw [show o'.tagger.root = o.tagger.root from steady.room.root]
    rcases under w job inner here with ⟨job, before⟩ | now
    · obtain ⟨younger, scope, found, parent⟩ := rooted.under w job inner before
      obtain ⟨scope', found', same, _⟩ := steady.room.scopes.kept inner scope found
      exact ⟨younger, scope', found', same parent⟩
    · exact now
  cancelled member := by
    rw [show o'.tagger.root = o.tagger.root from steady.room.root]
    rcases cancelled member with before | now
    · exact steady.room.scopes.isCancelled (rooted.cancelled before)
    · exact now

/-- No worker makes the step. -/
theorem Rooted.still (rooted : o.Rooted) (steady : o.Steady o') (workers : o'.workers = o.workers)
    (log : .cancelled ∈ o'.log → .cancelled ∈ o.log) : o'.Rooted :=
  rooted.step steady (fun _ _ _ here => .inl (workers ▸ here))
    (fun _ job _ here => .inl ⟨job, workers ▸ here⟩) (.inl ∘ log)

/-- A worker goes from one stage to the next. -/
theorem Rooted.work {shift : Shift κ} (rooted : o.Rooted) (steady : o.Steady o')
    (workers : o'.workers = Function.update o.workers w shift)
    (started : ∀ job root, shift = .started job root → root = o.tagger.root)
    (under : ∀ job inner, shift = .scoped job inner ∨ shift = .awaiting job inner →
      (∃ job, o.workers w = .scoped job inner ∨ o.workers w = .awaiting job inner) ∨
        o.tagger.root < inner ∧
          ∃ scope : Scope τ, o'.room.world.time.scopes[inner]? = some scope ∧
            scope.parent = some o.tagger.root)
    (log : .cancelled ∈ o'.log → .cancelled ∈ o.log) : o'.Rooted := by
  have cases_of (v : Nat) : v = w ∧ o'.workers v = shift ∨ o'.workers v = o.workers v := by
    rw [workers]
    by_cases same : v = w
    · exact .inl ⟨same, same ▸ Function.update_self ..⟩
    · exact .inr (Function.update_of_ne same ..)
  refine rooted.step steady ?_ ?_ (.inl ∘ log)
  · intro v job root here
    rcases cases_of v with ⟨rfl, kept⟩ | kept
    · exact .inr (started job root (kept ▸ here))
    · exact .inl (kept ▸ here)
  · intro v job inner here
    rcases cases_of v with ⟨rfl, kept⟩ | kept
    · exact under job inner (kept ▸ here)
    · exact .inl ⟨job, kept ▸ here⟩

/-- Once the scope of all jobs is cancelled, so is every scope in which a worker asks the backend. -/
theorem Rooted.isCancelled {job : TagJob} {inner : ScopeId} (rooted : o.Rooted)
    (cancelled : .cancelled ∈ o.log)
    (here : o.workers w = .scoped job inner ∨ o.workers w = .awaiting job inner) :
    o.room.world.time.isCancelled inner = true := by
  obtain ⟨younger, scope, found, under⟩ := rooted.under w job inner here
  have marked := rooted.heeds inner scope found under younger (rooted.cancelled cancelled)
  exact Forest.isCancelled_iff.mpr ⟨scope, found, marked⟩

variable [TimeScale τ]

theorem CallStep.rooted {d : Demand} {stage : CallStage τ} (step : CallStep c d stage o o')
    (rooted : o.Rooted) : o'.Rooted := by
  have steady := step.steady
  cases step <;> exact rooted.still steady rfl (by simp [recalling, asking, storing])

theorem StopStep.rooted {stage : StopStage} (step : StopStep c stage o o') (rooted : o.Rooted) :
    o'.Rooted := by
  have steady := step.steady
  cases step with
  | cancel =>
    refine rooted.step steady (fun _ _ _ here => .inl here) (fun _ job _ here => .inl ⟨job, here⟩) ?_
    intro _
    exact .inr (Forest.isCancelled_cancel rooted.inside)
  | _ => exact rooted.still steady rfl (by simp)

theorem ShiftStep.rooted {shift : Shift κ} (step : ShiftStep w shift o o')
    (here : o.workers w = shift) (rooted : o.Rooted) : o'.Rooted := by
  have steady := step.steady
  cases step with
  | start found =>
    obtain ⟨_, _, _, root, _⟩ := Tagging.beginJob_some found
    refine rooted.work steady rfl ?_ (by simp) (by simp)
    rintro job root' ⟨⟩
    exact root
  | @openInner _ job root inner opened =>
    obtain rfl : o.room.world.time.scopes.length = inner := Except.ok.inj opened
    obtain rfl := rooted.started w job root here
    refine rooted.work steady rfl (by simp) ?_ (by simp)
    rintro job' inner' (same | other)
    · obtain ⟨_, rfl⟩ := Shift.scoped.inj same
      exact .inr ⟨rooted.inside, _, List.getElem?_concat_length, rfl⟩
    · cases other
  | @ask _ job inner =>
    refine rooted.work steady rfl (by simp) ?_ (by simp [asking])
    rintro job' inner' (other | same)
    · cases other
    · obtain ⟨_, rfl⟩ := Shift.awaiting.inj same
      exact .inl ⟨job, .inl here⟩
  | _ => exact rooted.work steady rfl (by simp) (by simp) (by simp [storing])

theorem AsideStep.rooted (step : AsideStep o o') (rooted : o.Rooted) : o'.Rooted := by
  have steady := step.steady
  cases step <;> exact rooted.still steady rfl (by simp)

theorem Step.rooted (step : Step o o') (rooted : o.Rooted) : o'.Rooted := by
  cases step with
  | call _ step => exact step.rooted rooted
  | stop _ step => exact step.rooted rooted
  | shift here step => exact step.rooted here rooted
  | aside step => exact step.rooted rooted

theorem Leads.rooted (leads : Leads o o') (rooted : o.Rooted) : o'.Rooted := by
  induction leads with
  | refl => exact rooted
  | tail _ step ih => exact step.rooted ih

theorem rooted_start {config : TaggingConfig τ} {world : World τ} {partner : β} {crew : Nat} :
    (start config world partner crew : Office τ κ β).Rooted where
  inside := by
    change world.time.scopes.length < (world.time.scopes ++ [_]).length
    simp
  heeds := by
    intro child scope found _ younger
    have inside := (List.getElem?_eq_some_iff.mp found).1
    change child < (world.time.scopes ++ [_]).length at inside
    change world.time.scopes.length < child at younger
    simp at inside
    omega
  started w job root here := by
    simp only [start] at here
    split at here <;> cases here
  under w job inner here := by
    simp only [start] at here
    split at here <;> simp at here
  cancelled := nofun

end Office

end MemoAssist

import MemoAssist.Proofs.Tagging.Results
import MemoAssist.Proofs.Tagging.Steady

namespace MemoAssist

variable {τ κ β : Type}

namespace Happening

/-- What an asker does about requests, and what a client does about demands. -/
def isOf (asker : Asker) : Happening τ κ → Bool
  | .called c _ | .returned c _ _ | .recalled c _ _ _ _ => asker = .client c
  | .asked other _ _ | .answered other _ | .stored other _ _ _ _ _ => asker = other
  | _ => false

/-- From here on, what was stored under a key before is not there any more. -/
def Ends (key : String) : Happening τ κ → Prop
  | .stored _ content existing _ _ evicted =>
    Tagging.cacheKey content existing = key ∨ key ∈ evicted
  | .cleared => True
  | _ => False

end Happening

variable {log : List (Happening τ κ)} {asker : Asker} {entry : Happening τ κ}
  {content : String} {existing tags : List String} {moment : τ} {c w : Nat} {d : Demand}

/-- The last entries of an asker. -/
def Trail (log : List (Happening τ κ)) (asker : Asker) (entries : List (Happening τ κ)) : Prop :=
  ∃ past, log.filter (Happening.isOf asker) = past ++ entries

/-- The last that an asker did was to ask the backend for these tags and to get them. -/
def Obtained (log : List (Happening τ κ)) (asker : Asker) (content : String)
    (existing tags : List String) : Prop :=
  ∃ scope request response,
    Trail log asker [.asked asker scope request, .answered asker (.ok response)] ∧
      request.content = content ∧ request.existingTags = existing ∧ response.tags = tags

/-- The tags were obtained and stored, and what was stored has not been replaced, evicted or cleared
since. -/
def Held (log : List (Happening τ κ)) (content : String) (existing tags : List String)
    (moment : τ) : Prop :=
  ∃ earlier asker evicted later,
    log = earlier ++ .stored asker content existing tags moment evicted :: later ∧
      Obtained earlier asker content existing tags ∧
        ∀ entry ∈ later, ¬ entry.Ends (Tagging.cacheKey content existing)

/-! ### Trails -/

theorem Trail.start : Trail log asker [] := ⟨_, (List.append_nil _).symm⟩

theorem Trail.own {entries : List (Happening τ κ)} (trail : Trail log asker entries)
    (own : entry.isOf asker = true) : Trail (log ++ [entry]) asker (entries ++ [entry]) := by
  obtain ⟨past, filtered⟩ := trail
  exact ⟨past, by simp [List.filter_append, filtered, own]⟩

theorem Trail.other {entries : List (Happening τ κ)} (trail : Trail log asker entries)
    (other : entry.isOf asker = false) : Trail (log ++ [entry]) asker entries := by
  obtain ⟨past, filtered⟩ := trail
  exact ⟨past, by simp [List.filter_append, filtered, other]⟩

theorem Trail.drop {entries : List (Happening τ κ)} (trail : Trail log asker (entry :: entries)) :
    Trail log asker entries := by
  obtain ⟨past, filtered⟩ := trail
  exact ⟨past ++ [entry], by simp [filtered]⟩

/-- Where the log has the entries of a trail. -/
theorem Trail.split {entries : List (Happening τ κ)} (trail : Trail log asker (entry :: entries)) :
    ∃ before after, log = before ++ entry :: after ∧
      after.filter (Happening.isOf asker) = entries := by
  obtain ⟨past, filtered⟩ := trail
  obtain ⟨front, back, rfl, _, rest⟩ := List.filter_eq_append_iff.mp filtered
  obtain ⟨before, after, rfl, _, _, rfl⟩ := List.filter_eq_cons_iff.mp rest
  exact ⟨front ++ before, after, by simp, rfl⟩

/-- Where the log has the last entry of a trail. -/
theorem Trail.last {entries : List (Happening τ κ)}
    (trail : Trail log asker (entries ++ [entry])) :
    ∃ before after, log = before ++ entry :: after ∧ Trail before asker entries ∧
      ∀ other ∈ after, other.isOf asker = false := by
  obtain ⟨past, filtered⟩ := trail
  rw [← List.append_assoc] at filtered
  obtain ⟨front, back, rfl, own, rest⟩ := List.filter_eq_append_iff.mp filtered
  obtain ⟨quiet, after, rfl, others, _, none⟩ := List.filter_eq_cons_iff.mp rest
  refine ⟨front ++ quiet, after, by simp, ⟨past, ?_⟩, ?_⟩
  · rw [List.filter_append, own, List.filter_eq_nil_iff.mpr others, List.append_nil]
  · simpa using List.filter_eq_nil_iff.mp none

theorem Held.note (held : Held log content existing tags moment)
    (lasts : ¬ entry.Ends (Tagging.cacheKey content existing)) :
    Held (log ++ [entry]) content existing tags moment := by
  obtain ⟨earlier, asker, evicted, later, rfl, obtained, since⟩ := held
  refine ⟨earlier, asker, evicted, later ++ [entry], by simp, obtained, ?_⟩
  intro other member
  rcases List.mem_append.mp member with before | now
  · exact since other before
  · exact List.mem_singleton.mp now ▸ lasts

/-! ### What a client has done -/

/-- What a client has done about a demand since it called, at each stage. -/
def Course (c : Nat) (d : Demand) (sofar : List (Happening τ κ)) : CallStage τ → Prop
  | .entering | .metering | .metered _ | .recalling => sofar = []
  | .found tags => ∃ now, sofar = [.recalled c d.content d.existing now (some tags)]
  | .missing | .scoped _ => ∃ first, sofar = [first]
  | .ready job | .rechecking job | .recording job | .offering job | .withdrawing job
  | .leaving (.ok job) => job.status = .pending
  | .leaving (.error _) => True
  | .awaiting => ∃ first scope request, sofar = [first, .asked (.client c) scope request] ∧
      request.content = d.content ∧ request.existingTags = d.existing
  | .keeping response => ∃ first scope request,
      sofar = [first, .asked (.client c) scope request, .answered (.client c) (.ok response)] ∧
        request.content = d.content ∧ request.existingTags = d.existing
  | .telling _ => ∃ first scope request answered stored,
      sofar = [first, .asked (.client c) scope request, answered, stored] ∧
        ∀ d', answered ≠ .called c d' ∧ stored ≠ .called c d'

/-- What a worker has done about a job since it asked. -/
def Effort (log : List (Happening τ κ)) (w : Nat) : Shift κ → Prop
  | .awaiting job _ => ∃ scope request,
      Trail log (.worker w job.id) [.asked (.worker w job.id) scope request] ∧
        request.content = job.content ∧ request.existingTags = job.existing
  | .caching job response => Obtained log (.worker w job.id) job.content job.existing response.tags
  | _ => True

/-- A client has asked the backend since it called. -/
def AskedSinceCall (log : List (Happening τ κ)) (c : Nat) : Prop :=
  ∃ before scope request after, log = before ++ .asked (.client c) scope request :: after ∧
    ∀ d, .called c d ∉ after

/-- The last thing a client did since it called was to find these tags in the cache. -/
def Found (log : List (Happening τ κ)) (c : Nat) (d : Demand) (tags : List String) : Prop :=
  ∃ now, Trail log (.client c) [.called c d, .recalled c d.content d.existing now (some tags)]

/-- What an entry owes to those before it. -/
def Grounded [TimeScale τ] (span : τ) (log : List (Happening τ κ)) : Happening τ κ → Prop
  | .recalled _ content existing now (some tags) => ∃ content' existing' moment,
      Tagging.cacheKey content' existing' = Tagging.cacheKey content existing ∧
        Held log content' existing' tags moment ∧ ¬ span < now - moment
  | .returned c d (.ok (.tags response)) => AskedSinceCall log c ∨ Found log c d response.tags
  | .returned c d (.ok (.job job)) => job.status = .completed →
      ∃ response, job.result = some response ∧ Found log c d response.tags
  | _ => True

/-! ### Who does what -/

/-- An asker does nothing from one log to the next. -/
def Silent (asker : Asker) (before after : List (Happening τ κ)) : Prop :=
  ∀ entries, Trail before asker entries → Trail after asker entries

theorem Silent.refl : Silent asker log log := fun _ trail => trail

theorem Silent.note {before : List (Happening τ κ)} (silent : Silent asker before log)
    (other : entry.isOf asker = false) : Silent asker before (log ++ [entry]) :=
  fun entries trail => (silent entries trail).other other

theorem Effort.silent {after : List (Happening τ κ)} {shift : Shift κ} (effort : Effort log w shift)
    (silent : ∀ id, Silent (.worker w id) log after) : Effort after w shift := by
  cases shift with
  | awaiting job inner =>
    obtain ⟨scope, request, trail, rest⟩ := effort
    exact ⟨scope, request, silent job.id _ trail, rest⟩
  | caching job response =>
    obtain ⟨scope, request, answer, trail, rest⟩ := effort
    exact ⟨scope, request, answer, silent job.id _ trail, rest⟩
  | _ => trivial

namespace Office

variable [TimeScale τ] {o o' : Office τ κ β}

theorem CallStep.silent {stage : CallStage τ} (step : CallStep c d stage o o')
    (apart : asker ≠ .client c) : Silent asker o.log o'.log := by
  cases step with
  | enter | read | grant | lock | proceed | tooLate | record | full | withdraw | openInner =>
    exact Silent.refl
  | name | accept => exact Silent.refl.note rfl
  | serveJob => exact (Silent.refl.note rfl).note (by simp [Happening.isOf, apart])
  | fail =>
    exact (Silent.refl.note (by simp [Happening.isOf, apart])).note
      (by simp [Happening.isOf, apart])
  | barred | overQuota | serve | unserved | unnamed | leave | report | hit | miss | ask | answer
  | keep =>
    exact Silent.refl.note (by simp [Happening.isOf, recalling, asking, storing, apart])

theorem StopStep.silent {stage : StopStage} (step : StopStep c stage o o') :
    Silent asker o.log o'.log := by
  cases step with
  | cancel | fail | report => exact Silent.refl.note rfl
  | _ => exact Silent.refl

theorem ShiftStep.silent {shift : Shift κ} (step : ShiftStep w shift o o')
    (apart : ∀ id, asker ≠ .worker w id) : Silent asker o.log o'.log := by
  cases step with
  | look | go | fetch | rest | unknown | openInner | keepStill => exact Silent.refl
  | start | publish | tell => exact Silent.refl.note rfl
  | ask | answer | fail | keep =>
    exact Silent.refl.note (by simp [Happening.isOf, asking, storing, apart])

/-! ### The courses of all -/

/-- Everybody who is on the way has done what led there. -/
structure Coursing (o : Office τ κ β) : Prop where
  client : ∀ c d stage, o.clients c = .call d stage →
    ∃ sofar, Trail o.log (.client c) (.called c d :: sofar) ∧ Course c d sofar stage
  worker : ∀ w, Effort o.log w (o.workers w)

/-- What a client has done once it is at the next stage. -/
theorem CallStep.course {stage next : CallStage τ} {sofar : List (Happening τ κ)}
    (step : CallStep c d stage o o') (trail : Trail o.log (.client c) (.called c d :: sofar))
    (course : Course c d sofar stage) (now : o'.clients c = .call d next) :
    ∃ sofar, Trail o'.log (.client c) (.called c d :: sofar) ∧ Course c d sofar next := by
  have arrives {stage : CallStage τ}
      (set : o'.clients = Function.update o.clients c (.call d stage)) : stage = next := by
    rw [set, Function.update_self] at now
    exact (Errand.call.inj now).2
  have leaves (set : o'.clients = Function.update o.clients c .idle) : False := by
    rw [set, Function.update_self] at now
    cases now
  cases step with
  | barred | overQuota | serve | serveJob | unserved | unnamed | leave | fail | report =>
    exact (leaves rfl).elim
  | enter | read | grant | lock | proceed | record | full | openInner =>
    obtain rfl := arrives rfl
    exact ⟨sofar, trail, course⟩
  | tooLate | withdraw =>
    obtain rfl := arrives rfl
    exact ⟨sofar, trail, trivial⟩
  | hit =>
    obtain rfl := arrives rfl
    obtain rfl : sofar = [] := course
    exact ⟨_, trail.own (by simp [recalling, Happening.isOf]), o.now, rfl⟩
  | miss =>
    obtain rfl := arrives rfl
    obtain rfl : sofar = [] := course
    exact ⟨_, trail.own (by simp [recalling, Happening.isOf]), _, rfl⟩
  | name later named =>
    obtain rfl := arrives rfl
    obtain ⟨id, created, rfl⟩ := Tagging.newJob_ok named
    exact ⟨sofar, trail.other rfl, rfl⟩
  | accept =>
    obtain rfl := arrives rfl
    exact ⟨sofar, trail.other rfl, course⟩
  | ask =>
    obtain rfl := arrives rfl
    obtain ⟨first, rfl⟩ := course
    exact ⟨_, trail.own (by simp [asking, Happening.isOf]), first, _, _, rfl, rfl, rfl⟩
  | answer =>
    obtain rfl := arrives rfl
    obtain ⟨first, scope, request, rfl, rest⟩ := course
    exact ⟨_, trail.own (by simp [Happening.isOf]), first, scope, request, rfl, rest⟩
  | keep =>
    obtain rfl := arrives rfl
    obtain ⟨first, scope, request, rfl, _⟩ := course
    exact ⟨_, trail.own (by simp [storing, Happening.isOf]), first, scope, request, _, _, rfl,
      fun _ => ⟨nofun, nofun⟩⟩

theorem CallStep.coursing {stage : CallStage τ} (step : CallStep c d stage o o')
    (here : o.clients c = .call d stage) (coursing : o.Coursing) : o'.Coursing where
  client c' d' next now := by
    by_cases same : c' = c
    · subst same
      rcases step.client with idle | ⟨reached, now'⟩
      · exact nomatch idle.symm.trans now
      · obtain ⟨rfl, rfl⟩ := Errand.call.inj (now'.symm.trans now)
        obtain ⟨sofar, trail, course⟩ := coursing.client c' d stage here
        exact step.course trail course now
    · obtain ⟨sofar, trail, course⟩ :=
        coursing.client c' d' next ((step.others same).symm.trans now)
      have apart : Asker.client c' ≠ .client c := fun turned => same (Asker.client.inj turned)
      exact ⟨sofar, step.silent apart _ trail, course⟩
  worker w := by
    have same : o'.workers = o.workers := by cases step <;> rfl
    rw [same]
    exact (coursing.worker w).silent fun _ => step.silent nofun

theorem StopStep.coursing {stage : StopStage} (step : StopStep c stage o o')
    (coursing : o.Coursing) : o'.Coursing where
  client c' d next now := by
    by_cases same : c' = c
    · subst same
      rcases step.client with idle | ⟨reached, now'⟩
      · exact nomatch idle.symm.trans now
      · exact nomatch now'.symm.trans now
    · obtain ⟨sofar, trail, course⟩ :=
        coursing.client c' d next ((step.others same).symm.trans now)
      exact ⟨sofar, step.silent _ trail, course⟩
  worker w := by
    have same : o'.workers = o.workers := by cases step <;> rfl
    rw [same]
    exact (coursing.worker w).silent fun _ => step.silent

/-- What a worker has done once it is at the next stage. -/
theorem ShiftStep.effort {shift : Shift κ} (step : ShiftStep w shift o o')
    (effort : Effort o.log w shift) : Effort o'.log w (o'.workers w) := by
  have stage {shift : Shift κ} (set : o'.workers = Function.update o.workers w shift) :
      o'.workers w = shift := by rw [set, Function.update_self]
  cases step with
  | ask =>
    rw [stage rfl]
    exact ⟨_, _, Trail.start.own (by simp [asking, Happening.isOf]), rfl, rfl⟩
  | answer =>
    rw [stage rfl]
    obtain ⟨scope, request, trail, content, existing⟩ := effort
    exact ⟨scope, request, _, trail.own (by simp [Happening.isOf]), content, existing, rfl⟩
  | _ =>
    rw [stage rfl]
    trivial

theorem ShiftStep.coursing {shift : Shift κ} (step : ShiftStep w shift o o')
    (here : o.workers w = shift) (coursing : o.Coursing) : o'.Coursing where
  client c d stage now := by
    obtain ⟨sofar, trail, course⟩ :=
      coursing.client c d stage ((congrFun step.clients c).symm.trans now)
    exact ⟨sofar, step.silent (by nofun) _ trail, course⟩
  worker v := by
    by_cases same : v = w
    · subst same
      exact step.effort (here ▸ coursing.worker v)
    · have kept : o'.workers v = o.workers v := by
        cases step <;> exact Function.update_of_ne same ..
      rw [kept]
      exact (coursing.worker v).silent fun _ => step.silent fun _ turned =>
        same (Asker.worker.inj turned).1

theorem AsideStep.coursing (step : AsideStep o o') (coursing : o.Coursing) : o'.Coursing where
  client c d stage now := by
    cases step with
    | @call caller demand =>
      by_cases same : c = caller
      · subst same
        obtain ⟨rfl, rfl⟩ := Errand.call.inj (clients_client.symm.trans now)
        exact ⟨[], Trail.start.own (by simp [Happening.isOf]), rfl⟩
      · obtain ⟨sofar, trail, course⟩ :=
          coursing.client c d stage ((clients_client_of_ne same).symm.trans now)
        exact ⟨sofar, trail.other (by simp [Happening.isOf, same]), course⟩
    | @stop caller =>
      by_cases same : c = caller
      · subst same
        exact nomatch clients_client.symm.trans now
      · exact coursing.client c d stage ((clients_client_of_ne same).symm.trans now)
    | look | tidy | clear =>
      obtain ⟨sofar, trail, course⟩ := coursing.client c d stage now
      exact ⟨sofar, trail.other rfl, course⟩
    | _ => exact coursing.client c d stage now
  worker w := by
    cases step with
    | call | look | tidy | clear => exact (coursing.worker w).silent fun _ => Silent.refl.note rfl
    | _ => exact coursing.worker w

theorem Step.coursing (step : Step o o') (coursing : o.Coursing) : o'.Coursing := by
  cases step with
  | call here step => exact step.coursing here coursing
  | stop _ step => exact step.coursing coursing
  | shift here step => exact step.coursing here coursing
  | aside step => exact step.coursing coursing

theorem Leads.coursing (leads : Leads o o') (coursing : o.Coursing) : o'.Coursing := by
  induction leads with
  | refl => exact coursing
  | tail _ step ih => exact step.coursing ih

end Office

end MemoAssist

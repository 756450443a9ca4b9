import MemoAssist.Proofs.Clock.Exact
import MemoAssist.Proofs.Scope.Descent

/-! What happens to a scope while time passes: it is cancelled by the alarms that are due by then, for
itself or for a scope above it, and by nothing else. A sleep in it ends no later than it does. -/
namespace MemoAssist.Timeline

open ExactScale (value)

variable {τ : Type} {t t' t'' : Timeline τ} {id : ScopeId}

section Exact

variable [TimeScale τ] [ExactScale τ]

/-- Alarms wait in the order in which they are due, parents are older than their children, and the
scope has been opened. -/
structure Orderly (t : Timeline τ) (id : ScopeId) : Prop where
  sorted : t.alarms.Pairwise fun first second => value first.due ≤ value second.due
  ordered : t.scopes.Ordered
  inside : id < t.scopes.length

/-- Time went on, and alarms have rung on the way. -/
structure Passes (id : ScopeId) (t t' : Timeline τ) : Prop where
  forward : value t.now ≤ value t'.now
  alarms : t'.alarms <:+ t.alarms
  parents : t'.scopes.parentOf = t.scopes.parentOf
  length : t'.scopes.length = t.scopes.length
  deadline : t'.scopes.deadline id = t.scopes.deadline id
  lasting : t.isCancelled id = true → t'.isCancelled id = true
  called : t'.isCancelled id = true → t.isCancelled id = true ∨
    ∃ alarm ∈ t.alarms, Beneath t.scopes.parentOf alarm.scope id ∧ value alarm.due ≤ value t'.now
  rung : t.Orderly id → ∀ alarm ∈ t.alarms, Beneath t.scopes.parentOf alarm.scope id →
    alarm ∈ t'.alarms ∨ t'.isCancelled id = true

/-- Time went on until all alarms that were due had rung, or until the scope was cancelled. -/
structure Settles (id : ScopeId) (t t' : Timeline τ) : Prop extends Passes id t t' where
  pending : t.Orderly id → t'.isCancelled id = false → value t.now < value t'.now →
    ∀ alarm ∈ t'.alarms, value t'.now < value alarm.due

theorem Passes.refl : Passes id t t where
  forward := le_rfl
  alarms := List.suffix_refl _
  parents := rfl
  length := rfl
  deadline := rfl
  lasting := fun cancelled => cancelled
  called := Or.inl
  rung _ _ waiting _ := .inl waiting

theorem Passes.inOrder (passes : Passes id t t') (orderly : t.Orderly id) : t'.Orderly id where
  sorted := orderly.sorted.sublist passes.alarms.sublist
  ordered := by
    rw [Forest.Ordered, passes.parents]
    exact orderly.ordered
  inside := passes.length ▸ orderly.inside

theorem Passes.trans (first : Passes id t t') (second : Passes id t' t'') : Passes id t t'' where
  forward := first.forward.trans second.forward
  alarms := second.alarms.trans first.alarms
  parents := second.parents.trans first.parents
  length := second.length.trans first.length
  deadline := second.deadline.trans first.deadline
  lasting := second.lasting ∘ first.lasting
  called cancelled := by
    rcases second.called cancelled with before | ⟨alarm, waiting, above, due⟩
    · exact (first.called before).imp_right fun ⟨alarm, waiting, above, due⟩ =>
        ⟨alarm, waiting, above, due.trans second.forward⟩
    · exact .inr ⟨alarm, first.alarms.subset waiting, first.parents ▸ above, due⟩
  rung orderly alarm waiting above := by
    rcases first.rung orderly alarm waiting above with still | cancelled
    · exact second.rung (first.inOrder orderly) alarm still (first.parents ▸ above)
    · exact .inr (second.lasting cancelled)

theorem Settles.refl : Settles id t t := ⟨Passes.refl, fun _ _ later => absurd later (lt_irrefl _)⟩

theorem Settles.trans (first : Settles id t t') (second : Settles id t' t'') : Settles id t t'' where
  toPasses := first.toPasses.trans second.toPasses
  pending orderly standing later alarm waiting := by
    rcases second.forward.lt_or_eq with moved | still
    · exact second.pending (first.inOrder orderly) standing moved alarm waiting
    · -- No time has passed since the moment in between.
      rw [← still] at later ⊢
      have before : t'.isCancelled id = false :=
        Bool.eq_false_iff.mpr fun cancelled =>
          Bool.false_ne_true (standing.symm.trans (second.lasting cancelled))
      exact first.pending orderly before later alarm (second.alarms.subset waiting)

/-- A scope that stands was not to be cancelled by then, unless no time has passed. -/
theorem Settles.unheard (settles : Settles id t t') (orderly : t.Orderly id)
    (standing : t'.isCancelled id = false) {alarm : Alarm τ} (waiting : alarm ∈ t.alarms)
    (above : Beneath t.scopes.parentOf alarm.scope id) (due : value alarm.due ≤ value t'.now) :
    value t'.now ≤ value t.now := by
  by_contra later
  rcases settles.rung orderly alarm waiting above with still | cancelled
  · exact absurd (settles.pending orderly standing (not_le.mp later) alarm still) (not_lt.mpr due)
  · exact Bool.false_ne_true (standing.symm.trans cancelled)

/-! ### Alarms -/

/-- The first alarm rings, at the moment when it is due or at once if that is over. -/
theorem passes_ring {alarm : Alarm τ} {rest : List (Alarm τ)} (waiting : t.alarms = alarm :: rest) :
    Passes id t
      (cancel alarm.scope { t with now := TimeScale.later t.now alarm.due, alarms := rest }) where
  forward := by
    change value t.now ≤ value (TimeScale.later t.now alarm.due)
    rw [ExactScale.value_later]
    exact le_max_left _ _
  alarms := by
    rw [waiting]
    exact List.suffix_cons _ _
  parents := Forest.parentOf_cancel _ _
  length := Forest.length_cancel _ _
  deadline := Forest.deadline_cancel _ _ _
  lasting := (Forest.cancel_later : Forest.Later 0 t.scopes _).isCancelled
  called cancelled := by
    rcases Forest.beneath_of_cancel cancelled with before | beneath
    · exact .inl before
    · refine .inr ⟨alarm, waiting ▸ List.mem_cons_self, beneath, ?_⟩
      change value alarm.due ≤ value (TimeScale.later t.now alarm.due)
      rw [ExactScale.value_later]
      exact le_max_right _ _
  rung orderly other listed above := by
    rw [waiting] at listed
    rcases List.mem_cons.mp listed with rfl | later
    · exact .inr ((Forest.isCancelled_cancel_iff orderly.ordered orderly.inside).mpr (.inr above))
    · exact .inl later

/-- The clock goes on without an alarm. -/
theorem passes_now {target : τ} (ahead : value t.now ≤ value target) :
    Passes id t { t with now := target } where
  forward := ahead
  alarms := List.suffix_refl _
  parents := rfl
  length := rfl
  deadline := rfl
  lasting := fun cancelled => cancelled
  called := Or.inl
  rung _ _ waiting _ := .inl waiting

/-- Where the passing of time ends: at its target, or before it with the scope that is watched. The
induction is on the alarms still to ring. -/
theorem passing_settles (watched : Option ScopeId) (target : τ)
    (own : ∀ other, watched = some other → other = id) (alarms : List (Alarm τ))
    (waiting : t.alarms = alarms) (ahead : value t.now ≤ value target) :
    ∃ came after, passing target watched alarms t = (came, after) ∧ Passes id t after ∧
      (came = false → after.now = target ∧
        (t.Orderly id → ∀ alarm ∈ after.alarms, value target < value alarm.due)) ∧
      (came = true → after.isCancelled id = true ∧ value after.now ≤ value target) := by
  induction alarms generalizing t with
  | nil =>
    refine ⟨false, { t with now := target }, by rw [passing, ← waiting], passes_now ahead,
      fun _ => ⟨rfl, fun _ alarm listed => ?_⟩, nofun⟩
    exact absurd (waiting ▸ listed) List.not_mem_nil
  | cons alarm rest ih =>
    by_cases due : alarm.due ≤ target
    · have ringing : Passes id t _ := passes_ring waiting
      generalize next : cancel alarm.scope
        { t with now := TimeScale.later t.now alarm.due, alarms := rest } = ringed at ringing
      have near : value ringed.now ≤ value target := by
        rw [← next]
        change value (TimeScale.later t.now alarm.due) ≤ _
        rw [ExactScale.value_later]
        exact max_le ahead ((ExactScale.le_iff _ _).mp due)
      have left : ringed.alarms = rest := by rw [← next]; rfl
      rw [passing, if_pos due]
      dsimp only
      rw [next]
      split
      · next seen =>
        have cancelled : ringed.isCancelled id = true := by
          cases watched with
          | none => cases seen
          | some other => exact own other rfl ▸ seen
        exact ⟨true, ringed, rfl, ringing, nofun, fun _ => ⟨cancelled, near⟩⟩
      · obtain ⟨came, after, passed, passes, arrived, seen⟩ := ih left near
        refine ⟨came, after, passed, ringing.trans passes, fun missed => ?_, seen⟩
        exact (arrived missed).imp_right fun clear orderly => clear (ringing.inOrder orderly)
    · have after : value target < value alarm.due := not_le.mp (due ∘ (ExactScale.le_iff _ _).mpr)
      refine ⟨false, { t with now := target }, by rw [passing, if_neg due, ← waiting], passes_now ahead,
        fun _ => ⟨rfl, fun orderly other listed => ?_⟩, nofun⟩
      -- The others are due no earlier than the first, which is due after the target.
      have sorted := orderly.sorted
      rw [waiting] at sorted
      rcases List.mem_cons.mp (waiting ▸ listed) with rfl | later
      · exact after
      · exact after.trans_le (List.rel_of_pairwise_cons sorted later)

end Exact

/-! ### Waiting -/

variable [TimeScale τ] [TrueScale τ] {span : τ}

theorem advance_settles : Settles id t (t.advance span) := by
  by_cases negative : span < TimeScale.zero
  · rw [advance, if_pos negative]
    exact Settles.refl
  · have ahead : value t.now ≤ value (t.now + span) := by
      rw [ExactScale.value_add]
      exact le_add_of_nonneg_right (not_lt.mp (negative ∘ TrueScale.lt_zero_iff.mpr))
    obtain ⟨came, after, passed, passes, arrived, seen⟩ :=
      passing_settles none (t.now + span) nofun t.alarms rfl ahead
    rw [advance, if_neg negative, passed]
    refine ⟨passes, fun orderly standing _ => ?_⟩
    cases came with
    | true => exact absurd (standing.symm.trans (seen rfl).1) Bool.false_ne_true
    | false =>
      rw [(arrived rfl).1]
      exact (arrived rfl).2 orderly

/-- A wait for the cancellation of a scope lasts as long as it was meant to, unless the cancellation
comes. -/
theorem awaitCancel_settles (t : Timeline τ) (id : ScopeId) (span : τ) :
    ∃ came after, t.awaitCancel id span = (came, after) ∧ Settles id t after ∧
      value after.now ≤ value t.now + max 0 (value span) ∧
        (came = false → 0 ≤ value span → value after.now = value t.now + value span) ∧
          (came = true → after.isCancelled id = true) := by
  rw [awaitCancel]
  split
  · next cancelled =>
    exact ⟨true, t, rfl, Settles.refl, le_add_of_nonneg_right (le_max_left _ _), nofun, fun _ => cancelled⟩
  · split
    · next negative =>
      refine ⟨false, t, rfl, Settles.refl, le_add_of_nonneg_right (le_max_left _ _), fun _ forward => ?_, nofun⟩
      exact absurd (TrueScale.lt_zero_iff.mp negative) (not_lt.mpr forward)
    · next forward =>
      have forward : 0 ≤ value span := not_lt.mp (forward ∘ TrueScale.lt_zero_iff.mpr)
      have target : value (t.now + span) = value t.now + value span := ExactScale.value_add _ _
      obtain ⟨came, after, passed, passes, arrived, seen⟩ :=
        passing_settles (some id) (t.now + span) (fun other same => (Option.some.inj same).symm)
          t.alarms rfl (target ▸ le_add_of_nonneg_right forward)
      refine ⟨came, after, passed, ⟨passes, fun orderly standing _ => ?_⟩, ?_, fun missed _ => ?_,
        fun came => (seen came).1⟩
      · cases came with
        | true => exact absurd (standing.symm.trans (seen rfl).1) Bool.false_ne_true
        | false =>
          rw [(arrived rfl).1]
          exact (arrived rfl).2 orderly
      · rw [max_eq_right forward, ← target]
        cases came with
        | true => exact (seen rfl).2
        | false => rw [(arrived rfl).1]
      · rw [(arrived missed).1, target]

/-- The scope is over, and in the way that the failure tells. -/
def Over (t : Timeline τ) (id : ScopeId) (f : Fault) : Prop :=
  f.kind = .cancelled ∧ t.isCancelled id = true ∨ f.kind = .deadlineExceeded ∧ t.isExpired id = true

omit [TrueScale τ] in
theorem check_over {f : Fault} (ended : t.check id = .error f) : t.Over id f := by
  unfold Timeline.check Forest.check at ended
  split at ended
  · next cancelled => exact .inl ⟨Except.error.inj ended ▸ rfl, cancelled⟩
  · split at ended
    · next expired => exact .inr ⟨Except.error.inj ended ▸ rfl, expired⟩
    · cases ended

omit [TrueScale τ] in
theorem isExpired_iff [ExactScale τ] {last : τ} (ends : t.scopes.deadline id = some last) :
    t.isExpired id = true ↔ value last ≤ value t.now := by
  unfold isExpired Forest.isExpired
  rw [ends]
  exact decide_eq_true_iff.trans (ExactScale.le_iff _ _)

omit [TrueScale τ] in
theorem deadline_of_expired [ExactScale τ] (expired : t.isExpired id = true) :
    ∃ last, t.scopes.deadline id = some last ∧ value last ≤ value t.now := by
  cases ends : t.scopes.deadline id with
  | none =>
    rw [isExpired, Forest.isExpired, ends] at expired
    cases expired
  | some last => exact ⟨last, rfl, (isExpired_iff ends).mp expired⟩

theorem value_remaining {last left : τ} (ends : t.scopes.deadline id = some last)
    (bounded : t.remaining id = some left) : value left = max 0 (value last - value t.now) := by
  rw [remaining, Forest.remaining, ends] at bounded
  rw [← Option.some.inj bounded, ExactScale.value_later, TrueScale.value_zero, ExactScale.value_sub]

omit [TrueScale τ] in
theorem check_ok_iff :
    t.check id = .ok () ↔ t.isCancelled id = false ∧ t.isExpired id = false := by
  change (if t.isCancelled id then _ else if t.isExpired id then _ else _) = _ ↔ _
  cases t.isCancelled id <;> cases t.isExpired id <;> simp

omit [TrueScale τ] in
/-- A sleep that is not cut short by the deadline. -/
theorem sleep_whole (enough : ∀ left, t.remaining id = some left → ¬ left < span) :
    t.sleep id span =
      (if (t.awaitCancel id span).1 then .error (.of .cancelled) else .ok (),
        (t.awaitCancel id span).2) := by
  unfold sleep
  cases bounded : t.remaining id with
  | none => rfl
  | some left => exact if_neg (enough left bounded)

/-- A sleep that is cut short by the deadline ends with a failure. -/
theorem sleep_short {left : τ} (bounded : t.remaining id = some left) (short : left < span) :
    ∃ f, t.sleep id span = (.error f, (t.awaitCancel id left).2) ∧
      (t.awaitCancel id left).2.Over id f := by
  obtain ⟨last, ends, -⟩ := Option.map_eq_some_iff.mp bounded
  have took : value left = max 0 (value last - value t.now) := value_remaining ends bounded
  obtain ⟨came, after, waited, settles, -, arrived, seen⟩ := awaitCancel_settles t id left
  unfold sleep
  rw [bounded]
  simp only [if_pos short, waited]
  cases checked : after.check id with
  | error f => exact ⟨f, rfl, check_over checked⟩
  | ok _ =>
    -- By then the scope has been cancelled or has come to its deadline.
    obtain ⟨standing, lasting⟩ := check_ok_iff.mp checked
    cases came with
    | true => exact absurd (standing.symm.trans (seen rfl)) Bool.false_ne_true
    | false =>
      have reached : value last ≤ value after.now := by
        rw [arrived rfl (took ▸ le_max_left _ _), took]
        exact sub_le_iff_le_add'.mp (le_max_right _ _)
      have ended : after.isExpired id = true :=
        (isExpired_iff (settles.deadline.trans ends)).mpr reached
      exact absurd (lasting.symm.trans ended) Bool.false_ne_true

/-- A sleep fails only with its scope, and is over no later than the scope. -/
theorem sleep_settles (t : Timeline τ) (id : ScopeId) (span : τ) :
    Settles id t (t.sleep id span).2 ∧
      (∀ f, (t.sleep id span).1 = .error f → (t.sleep id span).2.Over id f) ∧
        ∀ last, t.scopes.deadline id = some last →
          value (t.sleep id span).2.now ≤ max (value t.now) (value last) := by
  -- Up to what is left of the scope, a wait is over by its deadline.
  have inTime {last left : τ} (ends : t.scopes.deadline id = some last)
      (bounded : t.remaining id = some left) :
      value t.now + max 0 (value left) ≤ max (value t.now) (value last) := by
    rw [value_remaining ends bounded, max_eq_right (le_max_left _ _), ← max_add_add_left]
    simp
  by_cases short : ∃ left, t.remaining id = some left ∧ left < span
  · obtain ⟨left, bounded, short⟩ := short
    obtain ⟨f, slept, ceased⟩ := sleep_short bounded short
    obtain ⟨came, after, waited, settles, limit, -, -⟩ := awaitCancel_settles t id left
    rw [slept]
    rw [waited] at ceased ⊢
    exact ⟨settles, fun g same => Except.error.inj same ▸ ceased,
      fun last ends => limit.trans (inTime ends bounded)⟩
  · have enough : ∀ left, t.remaining id = some left → ¬ left < span :=
      fun left bounded less => short ⟨left, bounded, less⟩
    obtain ⟨came, after, waited, settles, limit, -, seen⟩ := awaitCancel_settles t id span
    rw [sleep_whole enough, waited]
    refine ⟨settles, fun f failed => ?_, fun last ends => ?_⟩
    · cases came with
      | true => exact .inl ⟨Except.error.inj failed ▸ rfl, seen rfl⟩
      | false => cases failed
    · obtain ⟨left, bounded⟩ : ∃ left, t.remaining id = some left :=
        ⟨_, by rw [remaining, Forest.remaining, ends]; rfl⟩
      have most : value span ≤ value left :=
        not_lt.mp (enough left bounded ∘ (ExactScale.lt_iff _ _).mpr)
      exact (limit.trans (add_le_add_right (max_le_max le_rfl most) _)).trans (inTime ends bounded)

end MemoAssist.Timeline

import MemoAssist.Proofs.Scope.Passing
import Mathlib.Data.Set.Finite.Lemmas
import Mathlib.Order.WithBot

/-! When exactly a sleep ends, and how. Its scope may be cancelled meanwhile, for itself or with a scope
above it, and its deadline may come first. Of what falls on the same moment, a cancellation counts before
the deadline and before the end of the sleep. -/
namespace MemoAssist

open ExactScale (value)

variable {τ : Type}

namespace Forest

variable {forest : Forest τ} {root : ScopeId}

private theorem parentOf_release (id : ScopeId) :
    (forest.release root).parentOf id = (forest.parentOf id).filter (· ≠ root) := by
  rw [parentOf, release, List.getElem?_map, parentOf]
  cases forest[id]? with
  | none => rfl
  | some scope =>
    rw [Option.map_some, Option.bind_some, Option.bind_some]
    split
    · next under => rw [under, Option.filter_some, if_neg (by simp)]
    · next apart =>
      cases above : scope.parent with
      | none => rfl
      | some other =>
        rw [above] at apart
        rw [Option.filter_some, if_pos (by simpa using apart)]

theorem Ordered.release (ordered : forest.Ordered) : (forest.release root).Ordered := by
  intro id above under
  rw [parentOf_release] at under
  exact ordered id above (Option.eq_some_of_filter_eq_some under)

end Forest

namespace Timeline

variable [TimeScale τ] {t : Timeline τ} {id : ScopeId} {span target : τ}

section Exact

variable [ExactScale τ] {alarm : Alarm τ} {alarms : List (Alarm τ)} {first : WithTop ℚ}

/-! ### Alarms in their order -/

/-- Alarms wait in the order in which they are due. -/
def Sorted (alarms : List (Alarm τ)) : Prop :=
  alarms.Pairwise fun first second => value first.due ≤ value second.due

omit [ExactScale τ] in
private theorem mem_insertAlarm {other : Alarm τ} :
    other ∈ insertAlarm alarm alarms ↔ other = alarm ∨ other ∈ alarms := by
  induction alarms with
  | nil => simp [insertAlarm]
  | cons first rest ih =>
    rw [insertAlarm]
    split
    · simp
    · simp [ih, or_left_comm]

theorem Sorted.insertAlarm (alarm : Alarm τ) (sorted : Sorted alarms) :
    Sorted (insertAlarm alarm alarms) := by
  induction alarms with
  | nil => exact List.pairwise_singleton ..
  | cons first rest ih =>
    obtain ⟨least, behind⟩ := List.pairwise_cons.mp sorted
    rw [Timeline.insertAlarm]
    split
    · next before =>
      have before : value alarm.due < value first.due := (ExactScale.lt_iff _ _).mp before
      refine List.pairwise_cons.mpr ⟨fun other member => ?_, sorted⟩
      rcases List.mem_cons.mp member with rfl | later
      · exact before.le
      · exact before.le.trans (least other later)
    · next after =>
      have after : value first.due ≤ value alarm.due :=
        not_lt.mp (after ∘ (ExactScale.lt_iff _ _).mpr)
      refine List.pairwise_cons.mpr ⟨fun other member => ?_, ih behind⟩
      rcases mem_insertAlarm.mp member with rfl | later
      · exact after
      · exact least other later

/-! ### Cancellations to come -/

/-- The moments at which a scope is cancelled if nothing else is done: now, if it is already, and
whenever an alarm rings for it or for a scope above it, which is now if the alarm is overdue. The end of
all time is one of them in any case. -/
def calls (t : Timeline τ) (id : ScopeId) : Set (WithTop ℚ) :=
  {moment | moment = ⊤ ∨ t.isCancelled id = true ∧ moment = (value t.now : ℚ) ∨
    ∃ alarm ∈ t.alarms, Beneath t.scopes.parentOf alarm.scope id ∧
      moment = (max (value t.now) (value alarm.due) : ℚ)}

private theorem exists_first_call (t : Timeline τ) (id : ScopeId) : ∃ first, IsLeast (t.calls id) first := by
  have rings : {moment : WithTop ℚ | ∃ alarm ∈ t.alarms,
      (max (value t.now) (value alarm.due) : ℚ) = moment}.Finite :=
    (List.finite_toSet t.alarms).image _
  have finite : (t.calls id).Finite := by
    refine ((Set.toFinite {⊤, ((value t.now : ℚ) : WithTop ℚ)}).union rings).subset ?_
    rintro moment (rfl | ⟨-, rfl⟩ | ⟨alarm, waiting, -, rfl⟩)
    · exact .inl (.inl rfl)
    · exact .inl (.inr rfl)
    · exact .inr ⟨alarm, waiting, rfl⟩
  obtain ⟨first, member, least⟩ := Set.exists_min_image _ (fun moment => moment) finite ⟨⊤, .inl rfl⟩
  exact ⟨first, member, least⟩

private theorem now_le_of_mem_calls {moment : WithTop ℚ} (called : moment ∈ t.calls id) :
    (value t.now : ℚ) ≤ moment := by
  rcases called with rfl | ⟨-, rfl⟩ | ⟨alarm, -, -, rfl⟩
  · exact le_top
  · exact le_rfl
  · exact WithTop.coe_le_coe.mpr (le_max_left _ _)

/-- A scope that is cancelled already has not to wait for it. -/
theorem first_call_of_cancelled (cancelled : t.isCancelled id = true)
    (least : IsLeast (t.calls id) first) : first = (value t.now : ℚ) :=
  le_antisymm (least.2 (.inr (.inl ⟨cancelled, rfl⟩))) (now_le_of_mem_calls least.1)

/-- A scope that stands is not called before the first alarm. -/
theorem lt_first_call (standing : t.isCancelled id = false) {limit : ℚ}
    (pending : ∀ alarm ∈ t.alarms, limit < value alarm.due) (least : IsLeast (t.calls id) first) :
    limit < first := by
  rcases least.1 with rfl | ⟨cancelled, -⟩ | ⟨alarm, waiting, -, rfl⟩
  · exact WithTop.coe_lt_top _
  · exact absurd (standing.symm.trans cancelled) Bool.false_ne_true
  · exact WithTop.coe_lt_coe.mpr (lt_max_of_lt_right (pending alarm waiting))

/-! ### Waiting for the first -/

/-- What a wait comes to that has a limit: it stops there, unless the scope is called no later, and tells
which of the two it was. -/
structure Heard (id : ScopeId) (first : WithTop ℚ) (limit : ℚ) (ended : Bool × Timeline τ) : Prop where
  stops : (value ended.2.now : ℚ) = min first limit
  came : ended.1 = true ↔ first ≤ limit
  told : ended.2.isCancelled id = ended.1

private theorem heard_in_vain (standing : t.isCancelled id = false) (late : (value target : ℚ) < first)
    {left : List (Alarm τ)} :
    Heard id first (value target) (false, { t with now := target, alarms := left }) where
  stops := (min_eq_right late.le).symm
  came := iff_of_false Bool.false_ne_true late.not_ge
  told := standing

/-- What is left once an alarm has rung, with others still to ring. -/
def rung (alarm : Alarm τ) (rest : List (Alarm τ)) (t : Timeline τ) : Timeline τ :=
  cancel alarm.scope { t with now := TimeScale.later t.now alarm.due, alarms := rest }

variable {rest : List (Alarm τ)}

private theorem value_now_rung : value (rung alarm rest t).now = max (value t.now) (value alarm.due) :=
  ExactScale.value_later ..

private theorem isCancelled_rung (orderly : t.Orderly id) (standing : t.isCancelled id = false) :
    (rung alarm rest t).isCancelled id = true ↔ Beneath t.scopes.parentOf alarm.scope id := by
  refine (Forest.isCancelled_cancel_iff orderly.ordered orderly.inside).trans (or_iff_right ?_)
  exact fun before => Bool.false_ne_true (standing.symm.trans before)

/-- Alarms behind one that has been waiting in order are due no sooner. -/
theorem soonest (orderly : t.Orderly id) (waiting : t.alarms = alarm :: rest) :
    ∀ other ∈ rest, value alarm.due ≤ value other.due :=
  (List.pairwise_cons.mp (waiting ▸ orderly.sorted)).1

/-- An alarm that rings for a standing scope is what calls it first. -/
theorem first_call_of_rung (orderly : t.Orderly id) (standing : t.isCancelled id = false)
    (waiting : t.alarms = alarm :: rest) (least : IsLeast (t.calls id) first)
    (called : (rung alarm rest t).isCancelled id = true) :
    first = (value (rung alarm rest t).now : ℚ) := by
  rw [value_now_rung]
  have beneath := (isCancelled_rung orderly standing).mp called
  refine le_antisymm (least.2 (.inr (.inr ⟨alarm, waiting ▸ List.mem_cons_self, beneath, rfl⟩))) ?_
  rcases least.1 with rfl | ⟨before, -⟩ | ⟨other, listed, -, rfl⟩
  · exact le_top
  · exact absurd (standing.symm.trans before) Bool.false_ne_true
  · refine WithTop.coe_le_coe.mpr (max_le_max le_rfl ?_)
    rcases List.mem_cons.mp (waiting ▸ listed) with rfl | later
    · exact le_rfl
    · exact soonest orderly waiting other later

/-- An alarm that rings and leaves a scope standing has changed nothing about when it is called. The
others ring at the same moments, whether or not this one has rung. -/
theorem calls_of_rung (orderly : t.Orderly id) (waiting : t.alarms = alarm :: rest)
    (standing : t.isCancelled id = false) (still : (rung alarm rest t).isCancelled id = false) :
    (rung alarm rest t).calls id = t.calls id := by
  have parents : (rung alarm rest t).scopes.parentOf = t.scopes.parentOf := Forest.parentOf_cancel ..
  have uncalled : ¬ Beneath t.scopes.parentOf alarm.scope id := fun beneath =>
    Bool.false_ne_true (still.symm.trans ((isCancelled_rung orderly standing).mpr beneath))
  have same {other : Alarm τ} (later : other ∈ rest) :
      max (value (rung alarm rest t).now) (value other.due) = max (value t.now) (value other.due) := by
    rw [value_now_rung, max_assoc, max_eq_right (soonest orderly waiting other later)]
  ext moment
  constructor
  · rintro (rfl | ⟨before, -⟩ | ⟨other, later, beneath, rfl⟩)
    · exact .inl rfl
    · exact absurd (still.symm.trans before) Bool.false_ne_true
    · rw [same later]
      exact .inr (.inr ⟨other, waiting ▸ List.mem_cons_of_mem _ later, parents ▸ beneath, rfl⟩)
  · rintro (rfl | ⟨before, -⟩ | ⟨other, listed, beneath, rfl⟩)
    · exact .inl rfl
    · exact absurd (standing.symm.trans before) Bool.false_ne_true
    · rcases List.mem_cons.mp (waiting ▸ listed) with rfl | later
      · exact absurd beneath uncalled
      · rw [← same later]
        exact .inr (.inr ⟨other, later, parents ▸ beneath, rfl⟩)

/-- While a standing scope is watched, time passes up to a moment or to the first call. The induction is
on the alarms still to ring. -/
theorem passing_heard (alarms : List (Alarm τ)) (waiting : t.alarms = alarms) (orderly : t.Orderly id)
    (standing : t.isCancelled id = false) (ahead : value t.now ≤ value target)
    (least : IsLeast (t.calls id) first) :
    Heard id first (value target) (passing target (some id) alarms t) := by
  induction alarms generalizing t with
  | nil =>
    have pending : ∀ alarm ∈ t.alarms, value target < value alarm.due := by
      rw [waiting]
      exact nofun
    exact heard_in_vain standing (lt_first_call standing pending least)
  | cons alarm rest ih =>
    by_cases due : alarm.due ≤ target
    · have ringing : Passes id t (rung alarm rest t) := passes_ring waiting
      have near : value (rung alarm rest t).now ≤ value target := by
        rw [value_now_rung]
        exact max_le ahead ((ExactScale.le_iff _ _).mp due)
      rw [passing, if_pos due]
      change Heard id first _ (if (rung alarm rest t).isCancelled id then (true, rung alarm rest t)
        else passing target (some id) rest (rung alarm rest t))
      cases called : (rung alarm rest t).isCancelled id with
      | true =>
        have now := first_call_of_rung orderly standing waiting least called
        have early : first ≤ (value target : ℚ) := now ▸ WithTop.coe_le_coe.mpr near
        rw [if_pos rfl]
        exact ⟨now.symm.trans (min_eq_left early).symm, iff_of_true rfl early, called⟩
      | false =>
        rw [if_neg Bool.false_ne_true]
        exact ih rfl (ringing.inOrder orderly) called near
          (calls_of_rung orderly waiting standing called ▸ least)
    · have after : value target < value alarm.due := not_le.mp (due ∘ (ExactScale.le_iff _ _).mpr)
      have pending : ∀ other ∈ t.alarms, value target < value other.due := by
        intro other listed
        rcases List.mem_cons.mp (waiting ▸ listed) with rfl | later
        · exact after
        · exact after.trans_le (soonest orderly waiting other later)
      rw [passing, if_neg due]
      exact heard_in_vain standing (lt_first_call standing pending least)

end Exact

/-! ### Sleeping -/

variable [TrueScale τ] {first : WithTop ℚ}

private theorem awaitCancel_heard (orderly : t.Orderly id) (forward : 0 ≤ value span)
    (least : IsLeast (t.calls id) first) :
    Heard id first (value t.now + value span) (t.awaitCancel id span) := by
  rw [awaitCancel]
  split
  · next cancelled =>
    have now := first_call_of_cancelled cancelled least
    have early : first ≤ (value t.now + value span : ℚ) := by
      rw [now, WithTop.coe_le_coe]
      exact le_add_of_nonneg_right forward
    exact ⟨now.symm.trans (min_eq_left early).symm, iff_of_true rfl early, cancelled⟩
  · next standing =>
    have target : value (t.now + span) = value t.now + value span := ExactScale.value_add _ _
    rw [if_neg (not_lt.mpr forward ∘ TrueScale.lt_zero_iff.mp), ← target]
    exact passing_heard t.alarms rfl orderly (Bool.eq_false_iff.mpr standing)
      (target ▸ le_add_of_nonneg_right forward) least

/-- Less time than the span is left until the deadline. -/
def Short (t : Timeline τ) (id : ScopeId) (span : τ) : Prop :=
  ∃ last, t.scopes.deadline id = some last ∧ max 0 (value last - value t.now) < value span

/-- The moment at which a sleep ends that nothing interrupts: after its span, or with the deadline if that
is nearer. What is past cannot be its end. -/
def limit (t : Timeline τ) (id : ScopeId) (span : τ) : ℚ :=
  match t.scopes.deadline id with
  | none => value t.now + value span
  | some last =>
    if value span ≤ max 0 (value last - value t.now) then value t.now + value span
    else max (value t.now) (value last)

/-- How and when a sleep ends. -/
structure Slept (t : Timeline τ) (id : ScopeId) (span : τ) (first : WithTop ℚ)
    (ended : Except Fault Unit × Timeline τ) : Prop where
  stops : (value ended.2.now : ℚ) = min first (t.limit id span)
  cancelled : ended.1 = .error (.of .cancelled) ↔ first ≤ t.limit id span
  expired : ended.1 = .error (.of .deadlineExceeded) ↔ t.limit id span < first ∧ t.Short id span
  returned : ended.1 = .ok () ↔ t.limit id span < first ∧ ¬ t.Short id span

private theorem limit_of_short (short : t.Short id span) {last : τ} (ends : t.scopes.deadline id = some last) :
    t.limit id span = value t.now + max 0 (value last - value t.now) := by
  obtain ⟨other, ends', short⟩ := short
  obtain rfl := Option.some.inj (ends.symm.trans ends')
  rw [limit, ends]
  simp only [if_neg (not_le.mpr short)]
  rw [← max_add_add_left, add_zero, add_sub_cancel]

private theorem limit_of_not_short (enough : ¬ t.Short id span) :
    t.limit id span = value t.now + value span := by
  rw [limit]
  cases ends : t.scopes.deadline id with
  | none => rfl
  | some last => exact if_pos (not_lt.mp fun short => enough ⟨last, ends, short⟩)

omit [TrueScale τ] in
/-- A sleep that the deadline cuts short fails, and a cancellation that has come by then is what it fails
with. -/
theorem sleep_cut {left : τ} (bounded : t.remaining id = some left) (short : left < span) :
    t.sleep id span =
      (.error (.of (if (t.awaitCancel id left).2.isCancelled id then .cancelled else .deadlineExceeded)),
        (t.awaitCancel id left).2) := by
  unfold sleep
  rw [bounded]
  simp only [if_pos short]
  generalize (t.awaitCancel id left).2 = after
  cases cancelled : after.isCancelled id with
  | true =>
    have checked : after.check id = .error (.of .cancelled) := if_pos cancelled
    rw [checked]
    rfl
  | false =>
    have checked : after.check id =
        if after.scopes.isExpired after.now id then .error (.of .deadlineExceeded) else .ok () :=
      if_neg (Bool.eq_false_iff.mp cancelled)
    rw [checked]
    cases after.scopes.isExpired after.now id <;> rfl

/-- How a sleep ends follows from what is heard in the wait. -/
theorem Heard.slept {ended : Bool × Timeline τ} {outcome : Except Fault Unit}
    (heard : Heard id first (t.limit id span) ended)
    (short : t.Short id span →
      outcome = .error (.of (if ended.1 then .cancelled else .deadlineExceeded)))
    (whole : ¬ t.Short id span → outcome = if ended.1 then .error (.of .cancelled) else .ok ()) :
    Slept t id span first (outcome, ended.2) := by
  have apart : (.error (.of .cancelled) : Except Fault Unit) ≠ .error (.of .deadlineExceeded) := by
    decide
  cases came : ended.1 with
  | true =>
    rw [came] at short whole
    have early := heard.came.mp came
    obtain rfl : outcome = .error (.of .cancelled) := (em _).elim short whole
    exact ⟨heard.stops, iff_of_true rfl early, iff_of_false apart fun late => late.1.not_ge early,
      iff_of_false nofun fun late => late.1.not_ge early⟩
  | false =>
    rw [came] at short whole
    have late : (t.limit id span : WithTop ℚ) < first := by
      rw [← not_le, ← heard.came, came]
      exact Bool.false_ne_true
    by_cases less : t.Short id span
    · obtain rfl := short less
      exact ⟨heard.stops, iff_of_false apart.symm late.not_ge, iff_of_true rfl ⟨late, less⟩,
        iff_of_false nofun fun ended => ended.2 less⟩
    · obtain rfl := whole less
      exact ⟨heard.stops, iff_of_false nofun late.not_ge, iff_of_false nofun fun ended => less ended.2,
        iff_of_true rfl ⟨late, less⟩⟩

private theorem slept_of_orderly (orderly : t.Orderly id) (forward : 0 ≤ value span)
    (least : IsLeast (t.calls id) first) : Slept t id span first (t.sleep id span) := by
  by_cases short : t.Short id span
  · obtain ⟨last, ends, less⟩ := short
    have bounded : t.remaining id = some (TimeScale.later TimeScale.zero (last - t.now)) := by
      rw [remaining, Forest.remaining, ends]
      rfl
    have took := value_remaining ends bounded
    have heard := awaitCancel_heard orderly (took ▸ le_max_left _ _) least
    rw [took, ← limit_of_short ⟨last, ends, less⟩ ends] at heard
    rw [sleep_cut bounded ((ExactScale.lt_iff _ _).mpr (took ▸ less)), heard.told]
    exact heard.slept (fun _ => rfl) (absurd ⟨last, ends, less⟩)
  · have enough : ∀ left, t.remaining id = some left → ¬ left < span := by
      intro left bounded less
      obtain ⟨last, ends, -⟩ := Option.map_eq_some_iff.mp bounded
      exact short ⟨last, ends, value_remaining ends bounded ▸ (ExactScale.lt_iff _ _).mp less⟩
    have heard := awaitCancel_heard orderly forward least
    rw [← limit_of_not_short short] at heard
    rw [sleep_whole enough]
    exact heard.slept (absurd · short) fun _ => rfl

/-! ### What operations lead to -/

/-- The timelines that operations lead to, from any reading of the clock on. A scope is opened inside
one that is there. -/
inductive Arises : Timeline τ → Prop where
  | start (now : τ) : Arises ⟨now, [], []⟩
  | opened {t : Timeline τ} (timeout : Option τ) (parent : Option ScopeId) (arises : Arises t)
    (there : ∀ above, parent = some above → above < t.scopes.length) :
    Arises (t.openScope timeout parent).2
  | cancelled {t : Timeline τ} (id : ScopeId) (arises : Arises t) : Arises (t.cancel id)
  | released {t : Timeline τ} (id : ScopeId) (arises : Arises t) : Arises (t.release id)
  | alarmed {t : Timeline τ} (id : ScopeId) (span : τ) (arises : Arises t) :
    Arises (t.cancelAfter id span)
  | advanced {t : Timeline τ} (span : τ) (arises : Arises t) : Arises (t.advance span)
  | slept {t : Timeline τ} (id : ScopeId) (span : τ) (arises : Arises t) :
    Arises (t.sleep id span).2

omit [TrueScale τ] in
theorem Passes.kept [ExactScale τ] {t' : Timeline τ} (passes : Passes id t t')
    (inOrder : Sorted t.alarms ∧ t.scopes.Ordered) : Sorted t'.alarms ∧ t'.scopes.Ordered := by
  refine ⟨inOrder.1.sublist passes.alarms.sublist, ?_⟩
  rw [Forest.Ordered, passes.parents]
  exact inOrder.2

theorem Arises.inOrder (arises : t.Arises) : Sorted t.alarms ∧ t.scopes.Ordered := by
  induction arises with
  | start now => exact ⟨List.Pairwise.nil, nofun⟩
  | opened timeout parent _ there ih => exact ⟨ih.1, ih.2.insert there⟩
  | cancelled id _ ih => exact ⟨ih.1, ih.2.cancel⟩
  | released id _ ih =>
    rw [release]
    split
    · exact ih
    · exact ⟨ih.1, ih.2.release⟩
  | alarmed id span _ ih => exact ⟨ih.1.insertAlarm _, ih.2⟩
  | @advanced t span _ ih =>
    have settles : Settles 0 t (t.advance span) := advance_settles
    exact settles.kept ih
  | slept id span _ ih => exact (sleep_settles ..).1.kept ih

/-- A sleep in any scope, at any time and with any cancellations to come, ends with the first of these or
at its limit, whichever is earlier. It fails exactly if a cancellation has come by then or the deadline
has cut it short, and tells which. -/
theorem sleep_ends (arises : t.Arises) (inside : id < t.scopes.length) (forward : 0 ≤ value span) :
    ∃ first, IsLeast (t.calls id) first ∧ Slept t id span first (t.sleep id span) := by
  obtain ⟨first, least⟩ := exists_first_call t id
  have orderly : t.Orderly id := ⟨arises.inOrder.1, arises.inOrder.2, inside⟩
  exact ⟨first, least, slept_of_orderly orderly forward least⟩

/-- From a reading of 5 s, a scope with a deadline after 10 s inside another that is to be cancelled after
10 s too. -/
def contested : Timeline Int :=
  ((((⟨5000000, [], []⟩ : Timeline Int).openScope none none).2.openScope (some 10000000)
    (some 0)).2.cancelAfter 0 10000000)

/-- Where the deadline and a cancellation from above fall on one moment, a longer sleep is cancelled. -/
theorem sleep_ends_contested :
    contested.Arises ∧ 1 < contested.scopes.length ∧ 0 ≤ value (20000000 : Int) ∧
      (∃ first, IsLeast (contested.calls 1) first ∧
        Slept contested 1 20000000 first (contested.sleep 1 20000000)) ∧
      contested.scopes.deadline 1 = some 15000000 ∧
      (contested.sleep 1 20000000).1 = .error (.of .cancelled) ∧
      (contested.sleep 1 20000000).2.now = 15000000 := by
  have inner : ∀ above, some 0 = some above → above < 1 := by
    rintro above same
    exact Option.some.inj same ▸ Nat.one_pos
  have arises : contested.Arises := .alarmed _ _ (.opened _ _ (.opened _ _ (.start _) nofun) inner)
  have inside : 1 < contested.scopes.length := by decide
  have forward : 0 ≤ value (20000000 : Int) := Int.cast_nonneg (by decide)
  exact ⟨arises, inside, forward, sleep_ends arises inside forward, rfl, rfl, rfl⟩

end Timeline

end MemoAssist

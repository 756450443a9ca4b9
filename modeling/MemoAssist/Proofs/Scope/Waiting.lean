import MemoAssist.Proofs.Act
import MemoAssist.Proofs.Scope.Descent

namespace MemoAssist.Timeline

variable {τ : Type} [TimeScale τ] {t : Timeline τ} {id : ScopeId} {span : τ}

/-- Nothing has ended the scope and nothing is set to end it. -/
structure Undisturbed (t : Timeline τ) (id : ScopeId) : Prop where
  standing : t.isCancelled id = false
  endless : t.scopes.deadline id = none
  /-- Alarms are for scopes that this one does not lie under. -/
  quiet : ∀ alarm ∈ t.alarms, ¬ Beneath t.scopes.parentOf alarm.scope id

/-- The reading once a span has passed; a negative span is none at all. -/
def passed (now span : τ) : τ := if span < TimeScale.zero then now else now + span

namespace Undisturbed

theorem check (calm : t.Undisturbed id) : t.check id = .ok () := by
  have standing : t.scopes.isCancelled id = false := calm.standing
  have lasting : t.scopes.isExpired t.now id = false := by
    rw [Forest.isExpired, calm.endless]
  rw [Timeline.check, Forest.check, standing, lasting]
  rfl

theorem remaining (calm : t.Undisturbed id) : t.remaining id = none := by
  rw [Timeline.remaining, Forest.remaining, calm.endless]
  rfl

omit [TimeScale τ] in
/-- Cancelling a scope elsewhere disturbs nothing. -/
theorem cancel {root : ScopeId} (calm : t.Undisturbed id)
    (elsewhere : ¬ Beneath t.scopes.parentOf root id) : (t.cancel root).Undisturbed id where
  standing := by
    refine Bool.eq_false_iff.mpr fun cancelled => ?_
    rcases Forest.beneath_of_cancel cancelled with before | beneath
    · exact Bool.false_ne_true (calm.standing.symm.trans before)
    · exact elsewhere beneath
  endless := (Forest.deadline_cancel t.scopes root id).trans calm.endless
  quiet alarm set := by
    rw [show (t.cancel root).scopes.parentOf = t.scopes.parentOf from
      Forest.parentOf_cancel t.scopes root]
    exact calm.quiet alarm set

/-- Ringing the alarms up to a moment, whether or not the scope is watched meanwhile. The induction
is on the alarms still to ring, none of which is for the scope. -/
theorem passing (calm : t.Undisturbed id) (target : τ) {alarms : List (Alarm τ)}
    (quiet : ∀ alarm ∈ alarms, ¬ Beneath t.scopes.parentOf alarm.scope id) :
    ∃ after : Timeline τ, after.Undisturbed id ∧ after.now = target ∧
      ∀ watched : Option ScopeId, (∀ other, watched = some other → other = id) →
        Timeline.passing target watched alarms t = (false, after) := by
  induction alarms generalizing t with
  | nil =>
    have ended : ({ t with now := target, alarms := [] } : Timeline τ).Undisturbed id :=
      ⟨calm.standing, calm.endless, fun _ set => absurd set List.not_mem_nil⟩
    exact ⟨_, ended, rfl, fun watched own => rfl⟩
  | cons alarm rest ih =>
    by_cases due : alarm.due ≤ target
    · have waiting : ({ t with now := TimeScale.later t.now alarm.due, alarms := rest } :
          Timeline τ).Undisturbed id :=
        ⟨calm.standing, calm.endless, fun other set => quiet other (List.mem_cons_of_mem _ set)⟩
      have rung := waiting.cancel (quiet alarm List.mem_cons_self)
      obtain ⟨after, still, arrived, passing⟩ := ih rung rung.quiet
      refine ⟨after, still, arrived, fun watched own => ?_⟩
      rw [Timeline.passing, if_pos due]
      -- If a scope is watched it is this one, and the alarm was for another.
      have unseen : watched.elim false (Timeline.isCancelled
          (Timeline.cancel alarm.scope
            { t with now := TimeScale.later t.now alarm.due, alarms := rest })) = false := by
        cases watched with
        | none => rfl
        | some other => exact own other rfl ▸ rung.standing
      dsimp only
      rw [unseen]
      exact passing watched own
    · have later : ({ t with now := target, alarms := alarm :: rest } : Timeline τ).Undisturbed id :=
        ⟨calm.standing, calm.endless, quiet⟩
      exact ⟨_, later, rfl, fun watched own => by rw [Timeline.passing, if_neg due]⟩

theorem advance (calm : t.Undisturbed id) (span : τ) :
    (t.advance span).Undisturbed id ∧ (t.advance span).now = passed t.now span := by
  by_cases negative : span < TimeScale.zero
  · rw [Timeline.advance, passed, if_pos negative, if_pos negative]
    exact ⟨calm, rfl⟩
  · obtain ⟨after, still, arrived, passing⟩ := calm.passing (t.now + span) calm.quiet
    rw [Timeline.advance, passed, if_neg negative, if_neg negative, passing none nofun]
    exact ⟨still, arrived⟩

/-- Whoever waits for the scope to be cancelled waits in vain. -/
theorem awaitCancel (calm : t.Undisturbed id) (span : τ) :
    t.awaitCancel id span = (false, t.advance span) := by
  rw [Timeline.awaitCancel, calm.standing, Timeline.advance]
  by_cases negative : span < TimeScale.zero
  · rw [if_pos negative, if_pos negative]
    rfl
  · obtain ⟨after, -, -, passing⟩ := calm.passing (t.now + span) calm.quiet
    rw [if_neg negative, if_neg negative, passing none nofun,
      passing (some id) fun other same => (Option.some.inj same).symm]
    rfl

/-- The wait ends in good order, and all it does is let the span pass. -/
theorem sleep (calm : t.Undisturbed id) (span : τ) :
    t.sleep id span = (.ok (), t.advance span) := by
  unfold Timeline.sleep
  rw [calm.remaining]
  dsimp only
  rw [calm.awaitCancel]
  rfl

end Undisturbed

end MemoAssist.Timeline

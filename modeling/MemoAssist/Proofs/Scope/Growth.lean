import MemoAssist.Scope.Timeline
import MemoAssist.World

namespace MemoAssist

variable {τ : Type}

namespace Forest

/-- Once the root is cancelled, so is every younger scope under it. -/
def Heeds (root : Nat) (forest : Forest τ) : Prop :=
  ∀ (child : Nat) (scope : Scope τ), forest[child]? = some scope → scope.parent = some root →
    root < child → forest.isCancelled root = true → scope.cancelled = true

/-- What becomes of scopes: those under the root stay there, and cancelled ones stay cancelled. -/
structure Later (root : Nat) (before after : Forest τ) : Prop where
  kept : ∀ (id : Nat) (scope : Scope τ), before[id]? = some scope →
    ∃ scope' : Scope τ, after[id]? = some scope' ∧ (scope.parent = some root → scope'.parent = some root) ∧
      (scope.cancelled = true → scope'.cancelled = true)
  heeds : Heeds root before → Heeds root after

variable {root id : Nat} {forest after last : Forest τ}

theorem Later.refl : Later root forest forest :=
  ⟨fun _ scope found => ⟨scope, found, fun under => under, fun marked => marked⟩, fun heeds => heeds⟩

theorem Later.trans (first : Later root forest after) (second : Later root after last) :
    Later root forest last where
  kept id scope found := by
    obtain ⟨scope', found', under, cancelled⟩ := first.kept id scope found
    obtain ⟨scope'', found'', under', cancelled'⟩ := second.kept id scope' found'
    exact ⟨scope'', found'', under' ∘ under, cancelled' ∘ cancelled⟩
  heeds := second.heeds ∘ first.heeds

theorem isCancelled_iff :
    forest.isCancelled id = true ↔ ∃ scope, forest[id]? = some scope ∧ scope.cancelled = true := by
  unfold isCancelled
  cases forest[id]? <;> simp [Option.elim]

theorem Later.isCancelled (later : Later root forest after) (cancelled : forest.isCancelled id = true) :
    after.isCancelled id = true := by
  obtain ⟨scope, found, marked⟩ := isCancelled_iff.mp cancelled
  obtain ⟨scope', found', _, still⟩ := later.kept id scope found
  exact isCancelled_iff.mpr ⟨scope', found', still marked⟩

/-! ### Opening -/

theorem insert_later [TimeScale τ] {now : τ} {timeout : Option τ} {parent : Option ScopeId} :
    Later root forest (forest.insert now timeout parent).2 where
  kept id scope found := by
    refine ⟨scope, ?_, fun under => under, fun cancelled => cancelled⟩
    obtain ⟨inside, _⟩ := List.getElem?_eq_some_iff.mp found
    simp only [insert]
    rw [List.getElem?_append_left inside, found]
  heeds heeds := by
    intro child scope found under older cancelled
    simp only [insert] at found cancelled
    rcases Nat.lt_trichotomy child forest.length with inside | new | beyond
    · rw [List.getElem?_append_left inside] at found
      rw [Forest.isCancelled, List.getElem?_append_left (Nat.lt_trans older inside)] at cancelled
      exact heeds child scope found under older cancelled
    · subst new
      rw [List.getElem?_concat_length, Option.some.injEq] at found
      rw [Forest.isCancelled, List.getElem?_append_left older] at cancelled
      subst found
      simp only at under
      simpa [under, Forest.isCancelled] using cancelled
    · rw [List.getElem?_eq_none (by simpa using Nat.succ_le_of_lt beyond)] at found
      cases found

/-! ### Cancelling -/

/-- Cancelling changes nothing but who is cancelled, and who was stays so. -/
theorem cancelUnder_getElem? (position : Nat) (marked : List Nat) {scope : Scope τ}
    (found : forest[id]? = some scope) :
    ∃ cancelled, (cancelUnder position marked forest)[id]? = some { scope with cancelled } ∧
      (scope.cancelled = true → cancelled = true) := by
  induction forest generalizing position marked id with
  | nil => simp at found
  | cons head rest ih =>
    unfold cancelUnder
    cases id with
    | zero =>
      obtain rfl : head = scope := by simpa using found
      split
      · exact ⟨true, rfl, fun _ => rfl⟩
      · exact ⟨head.cancelled, rfl, fun cancelled => cancelled⟩
    | succ id =>
      have later : rest[id]? = some scope := by simpa using found
      split
      · exact ih _ _ later
      · exact ih _ _ later

theorem length_cancelUnder (forest : Forest τ) (position : Nat) (marked : List Nat) :
    (cancelUnder position marked forest).length = forest.length := by
  induction forest generalizing position marked with
  | nil => rfl
  | cons head rest ih =>
    unfold cancelUnder
    split <;> simp [ih]

/-- Whatever lies under a marked scope, or under one that is cancelled on the way, is cancelled. -/
theorem cancelUnder_reaches {position : Nat} {marked : List Nat} {scope : Scope τ}
    {parent : Nat} (found : (cancelUnder position marked forest)[id]? = some scope)
    (under : scope.parent = some parent)
    (reached : parent ∈ marked ∨ ∃ older : Nat, older < id ∧ parent = position + older ∧
      forest.isCancelled older = false ∧
      (cancelUnder position marked forest).isCancelled older = true) :
    scope.cancelled = true := by
  induction forest generalizing position marked id with
  | nil => simp [cancelUnder] at found
  | cons head rest ih =>
    unfold cancelUnder at found reached
    cases id with
    | zero =>
      have direct : parent ∈ marked := by
        rcases reached with direct | ⟨older, impossible, _⟩
        · exact direct
        · exact absurd impossible (Nat.not_lt_zero older)
      split at found
      · obtain rfl : _ = scope := by simpa using found
        rfl
      · next unmarked =>
        obtain rfl : head = scope := by simpa using found
        simp [under, direct] at unmarked
    | succ id =>
      split at found <;> rename_i condition
      · refine ih (by simpa using found) ?_
        rcases reached with direct | ⟨older, earlier, rfl, fresh, cancelled⟩
        · exact .inl (List.mem_cons_of_mem _ direct)
        · cases older with
          | zero => exact .inl List.mem_cons_self
          | succ older =>
            refine .inr ⟨older, by omega, by omega, by simpa [Forest.isCancelled] using fresh, ?_⟩
            rw [if_pos condition] at cancelled
            simpa [Forest.isCancelled] using cancelled
      · refine ih (by simpa using found) ?_
        rcases reached with direct | ⟨older, earlier, rfl, fresh, cancelled⟩
        · exact .inl direct
        · rw [if_neg condition] at cancelled
          cases older with
          | zero =>
            have unmarked : head.cancelled = false := by simpa [Forest.isCancelled] using fresh
            simp [Forest.isCancelled, unmarked] at cancelled
          | succ older =>
            exact .inr ⟨older, by omega, by omega, by simpa [Forest.isCancelled] using fresh,
              by simpa [Forest.isCancelled] using cancelled⟩

private theorem cancelUnder_marked {position : Nat} (marked : List Nat) (inside : id < forest.length)
    (member : position + id ∈ marked) :
    (cancelUnder position marked forest).isCancelled id = true := by
  induction forest generalizing position marked id with
  | nil => simp at inside
  | cons head rest ih =>
    unfold cancelUnder
    cases id with
    | zero =>
      have here : position ∈ marked := by simpa using member
      simp [Forest.isCancelled, here]
    | succ id =>
      have shorter : id < rest.length := by simpa using inside
      have shifted : position + 1 + id = position + (id + 1) := by omega
      split
      · simpa [Forest.isCancelled] using
          ih (position :: marked) shorter (shifted ▸ List.mem_cons_of_mem _ member)
      · simpa [Forest.isCancelled] using ih marked shorter (shifted ▸ member)

theorem cancel_later {target : Nat} : Later root forest (forest.cancel target) where
  kept id scope found := by
    obtain ⟨_, found', cancelled⟩ := cancelUnder_getElem? 0 [target] found
    exact ⟨_, found', fun under => under, cancelled⟩
  heeds heeds := by
    intro child scope found under older cancelled
    cases before : forest.isCancelled root with
    | false =>
      exact cancelUnder_reaches found under (.inr ⟨root, older, by simp, before, cancelled⟩)
    | true =>
      have inside : child < forest.length := by
        obtain ⟨inside, _⟩ := List.getElem?_eq_some_iff.mp found
        exact length_cancelUnder forest 0 [target] ▸ inside
      obtain ⟨_, found', stays⟩ := cancelUnder_getElem? 0 [target]
        (List.getElem?_eq_getElem inside)
      obtain rfl := Option.some.inj (found.symm.trans found')
      exact stays (heeds child _ (List.getElem?_eq_getElem inside) under older before)

theorem isCancelled_cancel (inside : id < forest.length) :
    (forest.cancel id).isCancelled id = true :=
  cancelUnder_marked [id] inside (by simp)

/-! ### Letting go -/

theorem release_later {target : Nat} (apart : target ≠ root) :
    Later root forest (forest.release target) where
  kept id scope found := by
    refine ⟨if scope.parent = some target then { scope with parent := none } else scope,
      by rw [release, List.getElem?_map, found]; rfl, ?_, ?_⟩
    · intro under
      have other : scope.parent ≠ some target := fun same =>
        apart (Option.some.inj (same.symm.trans under))
      simpa [if_neg other] using under
    · intro cancelled
      split <;> exact cancelled
  heeds heeds := by
    intro child scope found under older cancelled
    rw [release, List.getElem?_map] at found
    obtain ⟨before, here, rfl⟩ := Option.map_eq_some_iff.mp found
    have same : forest.isCancelled root = true := by
      obtain ⟨_, above, marked⟩ := isCancelled_iff.mp cancelled
      rw [release, List.getElem?_map] at above
      obtain ⟨older, there, rfl⟩ := Option.map_eq_some_iff.mp above
      refine isCancelled_iff.mpr ⟨older, there, ?_⟩
      split at marked <;> exact marked
    split at under
    · cases under
    · next other =>
      rw [if_neg other]
      exact heeds child before here under older same

end Forest

variable [TimeScale τ] {root : Nat}

namespace Timeline

private theorem passing_later {target : τ} {watched : Option ScopeId} (alarms : List (Alarm τ))
    (t : Timeline τ) : Forest.Later root t.scopes (passing target watched alarms t).2.scopes := by
  induction alarms generalizing t with
  | nil => exact Forest.Later.refl
  | cons alarm rest ih =>
    unfold passing
    split
    · dsimp only
      split
      · exact Forest.cancel_later
      · have rung := ih (cancel alarm.scope
          { now := TimeScale.later t.now alarm.due, scopes := t.scopes, alarms := rest })
        exact Forest.cancel_later.trans rung
    · exact Forest.Later.refl

theorem advance_later {span : τ} {t : Timeline τ} :
    Forest.Later root t.scopes (t.advance span).scopes := by
  unfold advance
  split
  · exact Forest.Later.refl
  · exact passing_later t.alarms t

private theorem awaitCancel_later (root : Nat) (id : ScopeId) (span : τ) (t : Timeline τ) :
    Forest.Later root t.scopes (t.awaitCancel id span).2.scopes := by
  unfold awaitCancel
  split
  · exact Forest.Later.refl
  · split
    · exact Forest.Later.refl
    · exact passing_later t.alarms t

theorem sleep_later {id : ScopeId} {span : τ} {t : Timeline τ} :
    Forest.Later root t.scopes (sleep id span t).2.scopes := by
  have waited (span : τ) := awaitCancel_later root id span t
  unfold sleep
  split
  · exact waited span
  · next left _ =>
    split
    · dsimp only
      split <;> exact waited left
    · exact waited span

omit [TimeScale τ] in
theorem now_release {id : Nat} {t : Timeline τ} : (t.release id).now = t.now := by
  unfold release
  split <;> rfl

omit [TimeScale τ] in
theorem release_later {id : Nat} {t : Timeline τ} (apart : id ≠ root) :
    Forest.Later root t.scopes (t.release id).scopes := by
  unfold release
  split
  · exact Forest.Later.refl
  · exact Forest.release_later apart

end Timeline

theorem World.send_later {attempt : Sent τ} {world : World τ} :
    Forest.Later root world.time.scopes (World.send attempt world).2.time.scopes := by
  simp only [World.send]
  cases (world.client world.sent.length).delay with
  | none => exact Forest.Later.refl
  | some span => exact Timeline.advance_later

end MemoAssist

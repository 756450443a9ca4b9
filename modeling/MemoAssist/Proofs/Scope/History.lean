import MemoAssist.Proofs.Clock.Exact
import MemoAssist.Proofs.Scope.Family

namespace MemoAssist

/-- What was done to scopes, one thing after the other. The index is how many were opened, which is
the number of the next; a scope can only be named once it is there. -/
inductive ScopeHistory (τ : Type) : Nat → Type where
  | start : ScopeHistory τ 0
  | opened {n : Nat} (past : ScopeHistory τ n) (now : τ) (timeout : Option τ)
      (parent : Option (Fin n)) : ScopeHistory τ (n + 1)
  | cancelled {n : Nat} (past : ScopeHistory τ n) (id : Fin n) : ScopeHistory τ n

namespace ScopeHistory

variable {τ : Type} {n : Nat}

/-! ### What the history says -/

/-- The scope in which a scope was opened. -/
def parent : {n : Nat} → ScopeHistory τ n → ScopeId → Option ScopeId
  | _, .start, _ => none
  | _, @opened _ n past _ _ parent, id => if id = n then parent.map Fin.val else past.parent id
  | _, .cancelled past _, id => past.parent id

/-- Was this scope itself cancelled at some time? -/
def WasCancelled : {n : Nat} → ScopeHistory τ n → ScopeId → Prop
  | _, .start, _ => False
  | _, .opened past _ _ _, id => past.WasCancelled id
  | _, .cancelled past other, id => id = other ∨ past.WasCancelled id

/-- The end that was set for a scope when it was opened, if it was given a time. -/
def limit [Add τ] : {n : Nat} → ScopeHistory τ n → ScopeId → Option τ
  | _, .start, _ => none
  | _, @opened _ n past now timeout _, id =>
    if id = n then timeout.map (now + ·) else past.limit id
  | _, .cancelled past _, id => past.limit id

/-- An end set for a scope or for one that it lies under. -/
def Limits [Add τ] (h : ScopeHistory τ n) (id : ScopeId) (moment : τ) : Prop :=
  ∃ root, Beneath h.parent root id ∧ h.limit root = some moment

/-- An end is the earliest of some, and there is none only if there are none of these. -/
def Earliest [LE τ] (candidates : τ → Prop) : Option τ → Prop
  | none => ∀ moment, ¬ candidates moment
  | some first => candidates first ∧ ∀ moment, candidates moment → first ≤ moment

/-! ### What the history leads to -/

variable [TimeScale τ]

def forest : {n : Nat} → ScopeHistory τ n → Forest τ
  | _, .start => []
  | _, .opened past now timeout parent => (past.forest.insert now timeout (parent.map Fin.val)).2
  | _, .cancelled past id => past.forest.cancel id

/-- The same, with every scope telling its own children. -/
def family : {n : Nat} → ScopeHistory τ n → Family τ
  | _, .start => []
  | _, .opened past now timeout parent => past.family.insert now timeout (parent.map Fin.val)
  | _, .cancelled past id => past.family.cancel id

theorem length_forest (h : ScopeHistory τ n) : h.forest.length = n := by
  induction h with
  | start => rfl
  | opened past now timeout parent ih => simp [forest, Forest.insert, ih]
  | cancelled past id ih => rw [forest, Forest.length_cancel, ih]

theorem parentOf_forest (h : ScopeHistory τ n) : h.forest.parentOf = h.parent := by
  induction h with
  | start => rfl
  | opened past now timeout parent ih =>
    funext id
    rw [forest, Forest.parentOf_insert, length_forest, ih]
    rfl
  | cancelled past id ih => rw [forest, Forest.parentOf_cancel, ih]; rfl

private theorem val_older {parent : Option (Fin n)} {above : ScopeId}
    (under : parent.map Fin.val = some above) : above < n := by
  obtain ⟨above, -, rfl⟩ := Option.map_eq_some_iff.mp under
  exact above.isLt

theorem ordered (h : ScopeHistory τ n) : h.forest.Ordered := by
  induction h with
  | start => exact nofun
  | opened past now timeout parent ih =>
    exact ih.insert fun above under => by rw [length_forest]; exact val_older under
  | cancelled past id ih => exact ih.cancel

theorem depicts (h : ScopeHistory τ n) : h.family.Depicts h.forest := by
  induction h with
  | start => exact Family.depicts_start
  | opened past now timeout parent ih =>
    exact ih.insert past.ordered fun above under => by rw [length_forest]; exact val_older under
  | cancelled past id ih =>
    exact ih.cancel past.ordered (by rw [length_forest]; exact id.isLt)

/-! ### Who lies under whom -/

variable {h : ScopeHistory τ n} {root id : ScopeId} {now : τ} {timeout : Option τ}
  {parent : Option (Fin n)}

private theorem older_of_parent {above : ScopeId} (under : h.parent id = some above) :
    above < id ∧ id < n := by
  rw [← parentOf_forest] at under
  exact ⟨h.ordered id above under, h.length_forest ▸ Forest.lt_length_of_parentOf under⟩

theorem beneath_old (old : id < n) :
    Beneath (h.opened now timeout parent).parent root id ↔ Beneath h.parent root id := by
  constructor
  · intro beneath
    induction beneath with
    | self => exact .self
    | @inside id above under _ ih =>
      have before : h.parent id = some above := by
        simpa [ScopeHistory.parent, Nat.ne_of_lt old] using under
      exact .inside before (ih (Nat.lt_trans (older_of_parent before).1 old))
  · intro beneath
    induction beneath with
    | self => exact .self
    | @inside id above under _ ih =>
      have order := older_of_parent under
      exact .inside (by simpa [ScopeHistory.parent, Nat.ne_of_lt old] using under)
        (ih (Nat.lt_trans order.1 old))

theorem beneath_new :
    Beneath (h.opened now timeout parent).parent root n ↔
      root = n ∨ ∃ above, parent = some above ∧ Beneath h.parent root above := by
  constructor
  · intro beneath
    cases beneath with
    | self => exact .inl rfl
    | @inside _ above under higher =>
      have own : parent.map Fin.val = some above := by simpa [ScopeHistory.parent] using under
      obtain ⟨above, same, rfl⟩ := Option.map_eq_some_iff.mp own
      exact .inr ⟨above, same, (beneath_old above.isLt).mp higher⟩
  · rintro (rfl | ⟨above, rfl, higher⟩)
    · exact .self
    · exact .inside (by simp [ScopeHistory.parent]) ((beneath_old above.isLt).mpr higher)

/-! ### Cancellation -/

omit [TimeScale τ] in
private theorem WasCancelled.opened_before (was : h.WasCancelled root) : root < n := by
  induction h with
  | start => exact was.elim
  | opened past now timeout parent ih => exact Nat.lt_succ_of_lt (ih was)
  | cancelled past other ih =>
    rcases was with rfl | before
    · exact other.isLt
    · exact ih before

private theorem isCancelled_forest (inside : id < n) :
    h.forest.isCancelled id = true ↔ ∃ root, h.WasCancelled root ∧ Beneath h.parent root id := by
  induction h generalizing id with
  | start => exact absurd inside (Nat.not_lt_zero id)
  | @opened n past now timeout parent ih =>
    have was_old {root : ScopeId} (was : past.WasCancelled root) : root < n := was.opened_before
    rw [forest, Forest.isCancelled_insert, length_forest]
    split
    · next new =>
      subst new
      cases parent with
      | none =>
        refine iff_of_false Bool.false_ne_true ?_
        rintro ⟨root, was, beneath⟩
        rcases beneath_new.mp beneath with rfl | ⟨above, nobody, -⟩
        · exact Nat.lt_irrefl _ (was_old was)
        · cases nobody
      | some above =>
        refine (ih above.isLt).trans ⟨?_, ?_⟩
        · rintro ⟨root, was, beneath⟩
          exact ⟨root, was, beneath_new.mpr (.inr ⟨above, rfl, beneath⟩)⟩
        · rintro ⟨root, was, beneath⟩
          rcases beneath_new.mp beneath with rfl | ⟨other, same, higher⟩
          · exact absurd (was_old was) (Nat.lt_irrefl _)
          · exact ⟨root, was, Option.some.inj same ▸ higher⟩
    · next old =>
      have before : id < n := Nat.lt_of_le_of_ne (Nat.le_of_lt_succ inside) old
      simp only [ih before, beneath_old before]
      rfl
  | cancelled past other ih =>
    rw [forest, Forest.isCancelled_cancel_iff past.ordered (past.length_forest.symm ▸ inside),
      ih inside, parentOf_forest]
    constructor
    · rintro (⟨root, was, beneath⟩ | beneath)
      · exact ⟨root, .inr was, beneath⟩
      · exact ⟨other, .inl rfl, beneath⟩
    · rintro ⟨root, rfl | was, beneath⟩
      · exact .inr beneath
      · exact .inl ⟨root, was, beneath⟩

/-- Whoever lies under a cancelled scope is cancelled. -/
theorem isCancelled_beneath (marked : h.forest.isCancelled root = true) (inside : id < n)
    (beneath : Beneath h.parent root id) : h.forest.isCancelled id = true := by
  have within : root < n := h.length_forest ▸ Forest.lt_length_of_isCancelled marked
  obtain ⟨top, was, upper⟩ := (isCancelled_forest within).mp marked
  exact (isCancelled_forest inside).mpr ⟨top, was, upper.trans beneath⟩

/-- Cancelling again changes nothing. -/
theorem forest_cancelled_again (target : Fin n) (marked : h.forest.isCancelled target = true) :
    (h.cancelled target).forest = h.forest := by
  apply List.ext_getElem?
  intro id
  cases found : h.forest[id]? with
  | none =>
    rw [forest, List.getElem?_eq_none_iff, Forest.length_cancel]
    exact List.getElem?_eq_none_iff.mp found
  | some scope =>
    obtain ⟨flag, after, stays⟩ := Forest.cancelUnder_getElem? 0 [target.val] found
    have inside : id < n := h.length_forest ▸ (List.getElem?_eq_some_iff.mp found).1
    have same : flag = scope.cancelled := by
      apply Bool.eq_iff_iff.mpr
      refine ⟨fun flagged => ?_, stays⟩
      have cancelled : (h.forest.cancel target).isCancelled id = true :=
        Forest.isCancelled_iff.mpr ⟨_, after, flagged⟩
      have before : h.forest.isCancelled id = true := by
        rcases Forest.beneath_of_cancel cancelled with before | beneath
        · exact before
        · exact isCancelled_beneath marked inside (h.parentOf_forest ▸ beneath)
      obtain ⟨scope', found', marked'⟩ := Forest.isCancelled_iff.mp before
      exact Option.some.inj (found'.symm.trans found) ▸ marked'
    rw [forest, Forest.cancel, after, same]

private theorem family_cancelled_again (target : Fin n) (marked : h.forest.isCancelled target = true) :
    (h.cancelled target).family = h.family := by
  have told : h.family.isCancelled target = true := (h.depicts.cancelled target).trans marked
  rw [family, Family.cancel, Family.cancelAll]
  split
  · rw [Family.cancelAll]
  · next kin found =>
    have flag : kin.cancelled = true := by
      rw [Family.isCancelled, found] at told
      exact told
    rw [dif_pos flag, Family.cancelAll]

/-! ### Deadlines -/

omit [TimeScale τ] in
theorem Earliest.congr [LE τ] {candidates others : τ → Prop} {first : Option τ}
    (earliest : Earliest candidates first) (same : ∀ moment, candidates moment ↔ others moment) :
    Earliest others first := by
  have equal : candidates = others := funext fun moment => propext (same moment)
  exact equal ▸ earliest

private theorem beneath_le (beneath : Beneath h.parent root id) : root ≤ id := by
  induction beneath with
  | self => exact Nat.le_refl root
  | inside under _ ih => exact Nat.le_trans ih (Nat.le_of_lt (older_of_parent under).1)

private theorem limits_old {moment : τ} (old : id < n) :
    (h.opened now timeout parent).Limits id moment ↔ h.Limits id moment := by
  have same (root : ScopeId) (beneath : Beneath h.parent root id) :
      (h.opened now timeout parent).limit root = h.limit root :=
    if_neg (Nat.ne_of_lt (Nat.lt_of_le_of_lt (beneath_le beneath) old))
  unfold Limits
  simp only [beneath_old old]
  refine exists_congr fun root => and_congr_right fun beneath => ?_
  rw [same root beneath]

/-- For a new scope, the end set for it counts as well as those that count for its parent. -/
theorem limits_new {moment : τ} :
    (h.opened now timeout parent).Limits n moment ↔
      timeout.map (now + ·) = some moment ∨
        ∃ above, parent = some above ∧ h.Limits above moment := by
  have own : (h.opened now timeout parent).limit n = timeout.map (now + ·) := if_pos rfl
  constructor
  · rintro ⟨root, beneath, given⟩
    rcases beneath_new.mp beneath with rfl | ⟨above, same, higher⟩
    · exact .inl (own ▸ given)
    · refine .inr ⟨above, same, (limits_old above.isLt).mp ⟨root, ?_, given⟩⟩
      exact (beneath_old above.isLt).mpr higher
  · rintro (given | ⟨above, same, limits⟩)
    · exact ⟨n, .self, own ▸ given⟩
    · obtain ⟨root, beneath, given⟩ := (limits_old above.isLt).mpr limits
      exact ⟨root, beneath_new.mpr (.inr ⟨above, same, (beneath_old above.isLt).mp beneath⟩), given⟩

variable [ExactScale τ]

private theorem le_self (a : τ) : a ≤ a := (ExactScale.le_iff a a).mpr le_rfl

/-- Of an end of its own and the earliest of others, the tighter is the earliest of all. -/
theorem Earliest.tighter {candidates : τ → Prop} {own limit : Option τ}
    (earliest : Earliest candidates limit) :
    Earliest (fun moment => own = some moment ∨ candidates moment) (Forest.tighter own limit) := by
  cases limit with
  | none =>
    cases own with
    | none =>
      rintro moment (nothing | candidate)
      · cases nothing
      · exact earliest moment candidate
    | some first =>
      refine ⟨.inl rfl, ?_⟩
      rintro moment (same | candidate)
      · exact Option.some.inj same ▸ le_self first
      · exact absurd candidate (earliest moment)
  | some last =>
    obtain ⟨candidate, least⟩ := earliest
    cases own with
    | none =>
      refine ⟨.inr candidate, ?_⟩
      rintro moment (nothing | other)
      · cases nothing
      · exact least moment other
    | some first =>
      refine ⟨?_, ?_⟩
      · change some first = some (TimeScale.earlier first last) ∨ _
        unfold TimeScale.earlier
        split
        · exact .inr candidate
        · exact .inl rfl
      · intro moment chosen
        rw [ExactScale.le_iff, ExactScale.value_earlier]
        rcases chosen with same | other
        · exact min_le_of_left_le (Option.some.inj same ▸ le_rfl)
        · exact min_le_of_right_le ((ExactScale.le_iff _ _).mp (least moment other))

/-- The deadline of a scope is the earliest end set for it or for one that it lies under. -/
theorem earliest_deadline (inside : id < n) : Earliest (h.Limits id) (h.forest.deadline id) := by
  induction h generalizing id with
  | start => exact absurd inside (Nat.not_lt_zero id)
  | @opened n past now timeout parent ih =>
    rw [forest, Forest.deadline_insert, length_forest]
    split
    · next new =>
      subst new
      have inherited : Earliest (fun moment => ∃ above, parent = some above ∧ past.Limits above moment)
          ((parent.map Fin.val).bind past.forest.deadline) := by
        cases parent with
        | none => rintro moment ⟨above, nobody, -⟩; cases nobody
        | some above => exact (ih above.isLt).congr fun moment => by simp
      exact inherited.tighter.congr fun moment => limits_new.symm
    · next old =>
      have before : id < n := Nat.lt_of_le_of_ne (Nat.le_of_lt_succ inside) old
      exact (ih before).congr fun moment => (limits_old before).symm
  | cancelled past other ih =>
    rw [forest, Forest.deadline_cancel]
    exact ih inside

/-- What lies under a scope with a deadline has one that is no later. -/
theorem deadline_beneath {last : τ} (inside : id < n) (beneath : Beneath h.parent root id)
    (ends : h.forest.deadline root = some last) :
    ∃ first, h.forest.deadline id = some first ∧ first ≤ last := by
  have above := earliest_deadline (h := h) (Nat.lt_of_le_of_lt (beneath_le beneath) inside)
  have own := earliest_deadline (h := h) inside
  rw [ends] at above
  obtain ⟨top, upper, given⟩ := above.1
  have limits : h.Limits id last := ⟨top, upper.trans beneath, given⟩
  cases ended : h.forest.deadline id with
  | none =>
    rw [ended] at own
    exact absurd limits (own last)
  | some first =>
    rw [ended] at own
    exact ⟨first, rfl, own.2 last limits⟩

/-! ### All together -/

/-- What holds of the scopes of a history. -/
structure Coherent (h : ScopeHistory τ n) : Prop where
  /-- A scope is cancelled if it was told to be, or one that it lies under was, at whatever time. -/
  cancelled : ∀ id, id < n →
    (h.forest.isCancelled id = true ↔ ∃ root, h.WasCancelled root ∧ Beneath h.parent root id)
  /-- To cancel a scope reaches nobody but what lies under it. -/
  only : ∀ (target : Fin n) id, id < n → ((h.cancelled target).forest.isCancelled id = true ↔
    h.forest.isCancelled id = true ∨ Beneath h.parent target id)
  again : ∀ target : Fin n, h.forest.isCancelled target = true →
    (h.cancelled target).forest = h.forest ∧ (h.cancelled target).family = h.family
  /-- It comes to the same that every scope tells its own children, and only once. -/
  told : h.family.length = n ∧ ∀ id, h.family.isCancelled id = h.forest.isCancelled id ∧
    h.family.deadline id = h.forest.deadline id
  deadline : ∀ id, id < n → Earliest (h.Limits id) (h.forest.deadline id)
  /-- No scope has more time left than one that it lies under. -/
  shorter : ∀ now root id left, id < n → Beneath h.parent root id →
    h.forest.remaining now root = some left →
      ∃ less, h.forest.remaining now id = some less ∧ less ≤ left
  sooner : ∀ now root id, id < n → Beneath h.parent root id →
    h.forest.isExpired now root = true → h.forest.isExpired now id = true
  nonnegative : ∀ now id left, h.forest.remaining now id = some left → TimeScale.zero ≤ left

theorem coherent (h : ScopeHistory τ n) : h.Coherent where
  cancelled _ := isCancelled_forest
  only target id inside := by
    rw [forest, Forest.isCancelled_cancel_iff h.ordered (h.length_forest.symm ▸ inside),
      parentOf_forest]
  again target marked := ⟨forest_cancelled_again target marked, family_cancelled_again target marked⟩
  told := ⟨h.depicts.length.trans h.length_forest, fun id =>
    ⟨h.depicts.cancelled id, h.depicts.deadline id⟩⟩
  deadline _ := earliest_deadline
  shorter now root id left inside beneath bounded := by
    obtain ⟨last, ends, rfl⟩ := Option.map_eq_some_iff.mp bounded
    obtain ⟨first, own, order⟩ := deadline_beneath inside beneath ends
    refine ⟨_, by rw [Forest.remaining, own]; rfl, ?_⟩
    rw [ExactScale.le_iff, ExactScale.value_later, ExactScale.value_later, ExactScale.value_sub,
      ExactScale.value_sub]
    rw [ExactScale.le_iff] at order
    exact max_le_max le_rfl (sub_le_sub_right order _)
  sooner now root id inside beneath expired := by
    unfold Forest.isExpired at expired ⊢
    cases ends : h.forest.deadline root with
    | none => rw [ends] at expired; cases expired
    | some last =>
      rw [ends] at expired
      obtain ⟨first, own, order⟩ := deadline_beneath inside beneath ends
      rw [own]
      simp only [decide_eq_true_eq] at expired ⊢
      rw [ExactScale.le_iff] at expired order ⊢
      exact le_trans order expired
  nonnegative now id left bounded := by
    obtain ⟨last, -, rfl⟩ := Option.map_eq_some_iff.mp bounded
    rw [ExactScale.le_iff, ExactScale.value_later]
    exact le_max_left _ _

end ScopeHistory

end MemoAssist

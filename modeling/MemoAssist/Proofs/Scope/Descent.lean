import MemoAssist.Proofs.Scope.Growth

namespace MemoAssist

variable {τ : Type}

/-- A scope lies under itself and under whatever its parent lies under. -/
inductive Beneath (parent : ScopeId → Option ScopeId) (root : ScopeId) : ScopeId → Prop where
  | self : Beneath parent root root
  | inside {id above : ScopeId} (opened : parent id = some above)
      (higher : Beneath parent root above) : Beneath parent root id

theorem Beneath.trans {parent : ScopeId → Option ScopeId} {top middle low : ScopeId}
    (upper : Beneath parent top middle) (lower : Beneath parent middle low) :
    Beneath parent top low := by
  induction lower with
  | self => exact upper
  | inside opened _ ih => exact .inside opened ih

/-- What stands in a list that has grown by one. -/
theorem getElem?_concat {α : Type} {front : List α} {last : α} {place : Nat} :
    (front ++ [last])[place]? = if place = front.length then some last else front[place]? := by
  split
  · next new => rw [new, List.getElem?_concat_length]
  · next old =>
    rcases Nat.lt_or_gt_of_ne old with inside | beyond
    · rw [List.getElem?_append_left inside]
    · rw [List.getElem?_eq_none (Nat.le_of_lt beyond),
        List.getElem?_eq_none (by simpa using Nat.succ_le_of_lt beyond)]

namespace Forest

variable {root id : ScopeId} {forest : Forest τ}

def parentOf (forest : Forest τ) (id : ScopeId) : Option ScopeId := (forest[id]?).bind Scope.parent

/-- Parents are older than their children. -/
def Ordered (forest : Forest τ) : Prop := ∀ id above, forest.parentOf id = some above → above < id

/-- Only what is marked, or lies under what is marked, is cancelled on the way. -/
theorem cancelUnder_only {P : ScopeId → Prop} (position : Nat) {marked : List ScopeId}
    (sound : ∀ id ∈ marked, P id)
    (closed : ∀ i (scope : Scope τ) above, forest[i]? = some scope → scope.parent = some above →
      P above → P (position + i))
    (cancelled : (cancelUnder position marked forest).isCancelled id = true) :
    forest.isCancelled id = true ∨ P (position + id) := by
  induction forest generalizing position marked id with
  | nil => simp [cancelUnder, isCancelled] at cancelled
  | cons head rest ih =>
    have shifted (i : Nat) : position + 1 + i = position + (i + 1) := by omega
    have later : ∀ i (scope : Scope τ) above, rest[i]? = some scope → scope.parent = some above →
        P above → P (position + 1 + i) := by
      intro i scope above found under reached
      rw [shifted]
      exact closed (i + 1) scope above (by simpa using found) under reached
    unfold cancelUnder at cancelled
    split at cancelled
    · next hit =>
      have here : P position := by
        rcases Bool.or_eq_true _ _ ▸ hit with direct | under
        · exact sound position (List.contains_iff_mem.mp direct)
        · cases above : head.parent with
          | none => simp [above] at under
          | some parent =>
            rw [above] at under
            exact closed 0 head parent rfl above (sound parent (List.contains_iff_mem.mp under))
      cases id with
      | zero => exact .inr here
      | succ id =>
        have next : ∀ id ∈ position :: marked, P id := by
          intro id member
          rcases List.mem_cons.mp member with rfl | old
          · exact here
          · exact sound id old
        have step := ih (position + 1) next later (by simpa [isCancelled] using cancelled)
        rw [shifted] at step
        simpa [isCancelled] using step
    · cases id with
      | zero => exact .inl (by simpa [isCancelled] using cancelled)
      | succ id =>
        have step := ih (position + 1) sound later (by simpa [isCancelled] using cancelled)
        rw [shifted] at step
        simpa [isCancelled] using step

/-- Whatever is marked, or lies under an older scope that is, is cancelled on the way. -/
theorem cancelUnder_covers {P : ScopeId → Prop} (position : Nat) {marked : List ScopeId}
    (known : ∀ id, id < position → P id → id ∈ marked)
    (traced : ∀ i (scope : Scope τ), forest[i]? = some scope → P (position + i) →
      position + i ∈ marked ∨
        ∃ above, scope.parent = some above ∧ above < position + i ∧ P above)
    (inside : id < forest.length) (reached : P (position + id)) :
    (cancelUnder position marked forest).isCancelled id = true := by
  induction forest generalizing position marked id with
  | nil => simp at inside
  | cons head rest ih =>
    have shifted (i : Nat) : position + 1 + i = position + (i + 1) := by omega
    have hit : P position →
        (marked.contains position || head.parent.elim false marked.contains) = true := by
      intro here
      rcases traced 0 head rfl here with direct | ⟨above, under, older, higher⟩
      · have here : position ∈ marked := direct
        simp [here]
      · simp [under, known above older higher]
    have later (more : List ScopeId) (grown : ∀ id ∈ marked, id ∈ more) :
        ∀ i (scope : Scope τ), rest[i]? = some scope → P (position + 1 + i) →
          position + 1 + i ∈ more ∨
            ∃ above, scope.parent = some above ∧ above < position + 1 + i ∧ P above := by
      intro i scope found here
      rw [shifted] at here ⊢
      rcases traced (i + 1) scope (by simpa using found) here with direct | under
      · exact .inl (grown _ direct)
      · exact .inr under
    unfold cancelUnder
    cases id with
    | zero =>
      rw [if_pos (hit reached)]
      rfl
    | succ id =>
      have short : id < rest.length := by simpa using inside
      rw [← shifted] at reached
      split
      · have next : ∀ id, id < position + 1 → P id → id ∈ position :: marked := by
          intro id older here
          rcases Nat.lt_or_eq_of_le (Nat.le_of_lt_succ older) with old | rfl
          · exact List.mem_cons_of_mem _ (known id old here)
          · exact List.mem_cons_self
        simpa [isCancelled] using
          ih (position + 1) next (later _ fun _ => List.mem_cons_of_mem _) short reached
      · next missed =>
        have next : ∀ id, id < position + 1 → P id → id ∈ marked := by
          intro id older here
          rcases Nat.lt_or_eq_of_le (Nat.le_of_lt_succ older) with old | rfl
          · exact known id old here
          · exact absurd (hit here) missed
        simpa [isCancelled] using ih (position + 1) next (later _ fun _ member => member) short reached

/-- What is cancelled with a scope lies under it. -/
theorem beneath_of_cancel (cancelled : (forest.cancel root).isCancelled id = true) :
    forest.isCancelled id = true ∨ Beneath forest.parentOf root id := by
  have sound : ∀ id ∈ [root], Beneath forest.parentOf root id := by
    rintro id member
    obtain rfl := List.mem_singleton.mp member
    exact .self
  have step := cancelUnder_only (P := Beneath forest.parentOf root) 0 sound
    (fun i scope above found under reached => by
      rw [Nat.zero_add]
      exact .inside (by rw [parentOf, found]; exact under) reached) cancelled
  rwa [Nat.zero_add] at step

/-- Cancelling a scope cancels exactly what lies under it. -/
theorem isCancelled_cancel_iff (ordered : forest.Ordered) (inside : id < forest.length) :
    (forest.cancel root).isCancelled id = true ↔
      forest.isCancelled id = true ∨ Beneath forest.parentOf root id := by
  constructor
  · exact beneath_of_cancel
  · rintro (before | beneath)
    · exact (cancel_later : Later root forest (forest.cancel root)).isCancelled before
    · refine cancelUnder_covers (P := Beneath forest.parentOf root) 0 (by simp) ?_ inside
        (by rwa [Nat.zero_add])
      intro i scope found reached
      rw [Nat.zero_add] at reached ⊢
      cases reached with
      | self => exact .inl List.mem_cons_self
      | @inside _ above opened higher =>
        refine .inr ⟨above, ?_, ordered i above opened, higher⟩
        rwa [parentOf, found] at opened

theorem length_cancel (forest : Forest τ) (root : ScopeId) :
    (forest.cancel root).length = forest.length :=
  length_cancelUnder forest 0 [root]

private theorem cancel_getElem?_of_none (beyond : forest[id]? = none) :
    (forest.cancel root)[id]? = none := by
  rw [List.getElem?_eq_none_iff, length_cancel]
  exact List.getElem?_eq_none_iff.mp beyond

theorem parentOf_cancel (forest : Forest τ) (root : ScopeId) :
    (forest.cancel root).parentOf = forest.parentOf := by
  funext id
  unfold parentOf
  cases found : forest[id]? with
  | none => rw [cancel_getElem?_of_none found]
  | some scope =>
    obtain ⟨_, after, _⟩ := cancelUnder_getElem? 0 [root] found
    rw [cancel, after]
    rfl

theorem deadline_cancel (forest : Forest τ) (root id : ScopeId) :
    (forest.cancel root).deadline id = forest.deadline id := by
  unfold deadline
  cases found : forest[id]? with
  | none => rw [cancel_getElem?_of_none found]
  | some scope =>
    obtain ⟨_, after, _⟩ := cancelUnder_getElem? 0 [root] found
    rw [cancel, after]
    rfl

/-! ### Opening -/

section

variable [TimeScale τ] {now : τ} {timeout : Option τ} {parent : Option ScopeId}

private theorem insert_getElem? :
    (forest.insert now timeout parent).2[id]? =
      if id = forest.length then
        some { parent
               deadline := tighter (timeout.map (now + ·)) (parent.bind forest.deadline)
               cancelled := parent.elim false forest.isCancelled }
      else forest[id]? :=
  getElem?_concat

theorem parentOf_insert :
    (forest.insert now timeout parent).2.parentOf id =
      if id = forest.length then parent else forest.parentOf id := by
  unfold parentOf
  rw [insert_getElem?]
  split <;> rfl

theorem isCancelled_insert :
    (forest.insert now timeout parent).2.isCancelled id =
      if id = forest.length then parent.elim false forest.isCancelled else forest.isCancelled id := by
  rw [isCancelled, insert_getElem?]
  split <;> rfl

theorem deadline_insert :
    (forest.insert now timeout parent).2.deadline id =
      if id = forest.length then tighter (timeout.map (now + ·)) (parent.bind forest.deadline)
      else forest.deadline id := by
  rw [deadline, insert_getElem?]
  split <;> rfl

theorem Ordered.insert (ordered : forest.Ordered)
    (older : ∀ above, parent = some above → above < forest.length) :
    (forest.insert now timeout parent).2.Ordered := by
  intro id above opened
  rw [parentOf_insert] at opened
  split at opened
  · next new => exact new ▸ older above opened
  · exact ordered id above opened

end

theorem Ordered.cancel (ordered : forest.Ordered) : (forest.cancel root).Ordered := by
  rw [Ordered, parentOf_cancel]
  exact ordered

theorem lt_length_of_parentOf {above : ScopeId} (opened : forest.parentOf id = some above) :
    id < forest.length := by
  rcases Nat.lt_or_ge id forest.length with inside | beyond
  · exact inside
  · rw [parentOf, List.getElem?_eq_none beyond] at opened
    cases opened

theorem lt_length_of_isCancelled (cancelled : forest.isCancelled id = true) : id < forest.length := by
  obtain ⟨_, found, _⟩ := isCancelled_iff.mp cancelled
  exact (List.getElem?_eq_some_iff.mp found).1

end Forest

end MemoAssist

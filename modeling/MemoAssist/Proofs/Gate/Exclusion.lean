import MemoAssist.Proofs.Gate.Crowd

namespace MemoAssist.Crowd

variable {α : Type} [DecidableEq α] {nested : Bool} {c c' : Crowd α}

/-- What holds of the gate at any moment, and of the next step from there. -/
structure Exclusive (nested : Bool) (c : Crowd α) : Prop where
  readers : c.gate.readers = (c.holders .read).length
  writer : c.gate.writer = true ↔ (c.holders .write).length = 1
  writersWaiting : c.gate.writersWaiting = (c.waiting .write).length
  /-- Nobody waits for more than one side at a time. -/
  waitsOnce : (c.gate.inside.map Waiter.actor).Nodup
  /-- Where nobody asks for a second side, everyone holds one side or waits for one, so that the
  numbers of those who do are numbers of threads. -/
  single : nested = false → ((c.gate.inside ++ c.holding).map Waiter.actor).Nodup
  oneWriter : (c.holders .write).length ≤ 1
  apart : c.holders .write ≠ [] → c.holders .read = []
  nonneg : 0 ≤ c.gate.readers ∧ 0 ≤ c.gate.writersWaiting
  /-- No reader is let in by a step before or after which a writer waits. -/
  yields : ∀ c', Step nested c c' → (c.holders .read).length < (c'.holders .read).length →
    c.waiting .write = [] ∧ c'.waiting .write = []

omit [DecidableEq α] in
/-- Only an admitted reader adds to those who hold the side for reading. -/
theorem admitted_of_tried {w : Waiter α} {g : Gate α}
    (grown : (c.holders .read).length < ((c.tried w (g.attempt w)).holders .read).length) :
    w.side = .read ∧ g.admits .read = true ∧ (c.tried w (g.attempt w)).gate = g.enter .read := by
  cases admitted : g.admits w.side with
  | false =>
    rw [Gate.attempt_barred admitted] at grown
    exact absurd grown (Nat.lt_irrefl _)
  | true =>
    rw [Gate.attempt_admitted admitted] at grown ⊢
    obtain ⟨actor, side⟩ := w
    cases side with
    | read => exact ⟨rfl, admitted, rfl⟩
    | write =>
      have same : Waiter.on .read (⟨actor, .write⟩ :: c.holding) = c.holders .read := rfl
      simp only [tried, holders, if_true, same, Nat.lt_irrefl] at grown

omit [DecidableEq α] in
/-- Where a reader is let in, no writer waits. -/
theorem Kept.yields_tried {w : Waiter α} {g : Gate α} (kept : Kept nested g c.holding [w])
    (grown : (c.holders .read).length < ((c.tried w (g.attempt w)).holders .read).length) :
    Waiter.on .write (w :: g.inside) = [] ∧
      (c.tried w (g.attempt w)).waiting .write = [] := by
  obtain ⟨reads, admitted, gate⟩ := admitted_of_tried grown
  have none : g.writersWaiting = 0 := (Gate.admits_read.mp admitted).2
  have counted := kept.writersWaiting
  rw [none] at counted
  have before : Waiter.on .write (w :: g.inside) = [] :=
    List.eq_nil_of_length_eq_zero (Int.ofNat_eq_zero.mp counted.symm)
  have rest : Waiter.on .write (w :: g.inside) = Waiter.on .write g.inside := by simp [reads]
  refine ⟨before, ?_⟩
  rw [waiting, gate]
  exact rest.symm.trans before

/-- Whoever leaves lets nobody in. -/
theorem not_grown_erase (w : Waiter α) :
    ¬ (c.holders .read).length < (Waiter.on .read (c.holding.erase w)).length := by
  have fewer : (Waiter.on .read (c.holding.erase w)).Sublist (c.holders .read) :=
    (List.erase_sublist.filter _).map _
  exact Nat.not_lt.mpr fewer.length_le

private theorem Kept.yields (kept : Kept nested c.gate c.holding []) (step : Step nested c c')
    (grown : (c.holders .read).length < (c'.holders .read).length) :
    c.waiting .write = [] ∧ c'.waiting .write = [] := by
  cases step with
  | @arrive w free unburdened =>
    rw [Gate.arrive_eq] at grown ⊢
    obtain ⟨before, after⟩ := (kept.expecting free unburdened).yields_tried grown
    refine ⟨?_, after⟩
    have reads := (admitted_of_tried grown).1
    rw [reads] at before
    have rest : Waiter.on .write (w :: c.gate.inside) = c.waiting .write := by simp [reads, waiting]
    exact rest.symm.trans before
  | @resume w woken =>
    obtain ⟨before, after⟩ := (kept.taken woken).yields_tried grown
    refine ⟨?_, after⟩
    have same : (w :: (c.gate.asleep ++ c.gate.awake.erase w)).Perm c.gate.inside :=
      List.perm_middle.symm.trans ((List.perm_cons_erase woken).symm.append_left _)
    have perm := Waiter.on_perm .write same
    exact (before ▸ perm).nil_eq.symm
  | releaseRead free held => exact absurd grown (not_grown_erase _)
  | releaseWrite free held => exact absurd grown (not_grown_erase _)

namespace Kept

variable (kept : Kept nested c.gate c.holding [])
include kept

omit [DecidableEq α] in
private theorem length_writers : (c.holders .write).length = if c.gate.writer then 1 else 0 := kept.writer

omit [DecidableEq α] in
private theorem writer_iff : c.gate.writer = true ↔ (c.holders .write).length = 1 := by
  rw [kept.length_writers]
  cases c.gate.writer <;> simp

omit [DecidableEq α] in
private theorem oneWriter : (c.holders .write).length ≤ 1 := by
  rw [kept.length_writers]
  split <;> omega

omit [DecidableEq α] in
theorem apart (held : c.holders .write ≠ []) : c.holders .read = [] := by
  have lone := kept.length_writers
  have counted := kept.readers
  have writes : c.gate.writer = true := by
    by_contra idle
    rw [if_neg idle] at lone
    exact held (List.eq_nil_of_length_eq_zero lone)
  rw [kept.alone writes] at counted
  exact List.eq_nil_of_length_eq_zero (Int.ofNat_eq_zero.mp counted.symm)

omit [DecidableEq α] in
theorem nonneg : 0 ≤ c.gate.readers ∧ 0 ≤ c.gate.writersWaiting := by
  constructor
  · rw [kept.readers]
    exact Int.natCast_nonneg _
  · rw [kept.writersWaiting]
    exact Int.natCast_nonneg _

end Kept

/-- Any number of threads come, try again and leave in any order, and each leaves only a side that
it holds: readers and writers are kept apart, and the counters are right. -/
theorem exclusive (leads : Leads nested {} c) : c.Exclusive nested where
  readers := leads.kept.readers
  writer := leads.kept.writer_iff
  writersWaiting := leads.kept.writersWaiting
  waitsOnce := leads.kept.once
  single := leads.kept.single
  oneWriter := leads.kept.oneWriter
  apart := leads.kept.apart
  nonneg := leads.kept.nonneg
  yields _ step grown := leads.kept.yields step grown

/-- A reader is inside, a writer waits for it, and another reader waits behind the writer. -/
def queued : Crowd Nat :=
  { gate := { readers := 1, writersWaiting := 1, asleep := [⟨1, .write⟩, ⟨2, .read⟩] }
    holding := [⟨0, .read⟩] }

theorem leads_queued : Leads false {} queued := by
  have first : Step false ({} : Crowd Nat) { gate := { readers := 1 }, holding := [⟨0, .read⟩] } :=
    .arrive (w := ⟨0, .read⟩) (by simp [IsFree, Gate.inside]) (.inr (by simp))
  have second : Step false { gate := { readers := 1 }, holding := [⟨0, .read⟩] }
      { gate := { readers := 1, writersWaiting := 1, asleep := [⟨1, .write⟩] }
        holding := [(⟨0, .read⟩ : Waiter Nat)] } :=
    .arrive (w := ⟨1, .write⟩) (by simp [IsFree, Gate.inside]) (.inr (by simp))
  have third : Step false
      { gate := { readers := 1, writersWaiting := 1, asleep := [⟨1, .write⟩] }
        holding := [(⟨0, .read⟩ : Waiter Nat)] } queued :=
    .arrive (w := ⟨2, .read⟩) (by simp [IsFree, Gate.inside]) (.inr (by simp))
  exact ((Relation.ReflTransGen.single first).tail second).tail third

theorem exclusive_queued : Leads false {} queued ∧ queued.Exclusive false :=
  ⟨leads_queued, exclusive leads_queued⟩

end MemoAssist.Crowd

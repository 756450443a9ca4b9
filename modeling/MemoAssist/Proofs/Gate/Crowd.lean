import MemoAssist.Gate
import Mathlib.Data.List.Nodup
import Mathlib.Data.List.Perm.Basic
import Mathlib.Logic.Relation

/-! The gate among any number of threads, which come, try again and leave in any order. Each step is
what one thread does while it holds the gate's own lock. The counters of the gate agree with who
holds a side and who waits for one, and whoever sleeps could not enter. -/
namespace MemoAssist

variable {α : Type}

namespace Gate

/-- Those who came and have not entered yet. -/
def inside (g : Gate α) : List (Waiter α) := g.asleep ++ g.awake

/-- The gate once somebody has come to a side of it. -/
def expecting (side : Side) (g : Gate α) : Gate α :=
  match side with
  | .read => g
  | .write => { g with writersWaiting := g.writersWaiting + 1 }

theorem arrive_eq (w : Waiter α) (g : Gate α) : g.arrive w = attempt w (g.expecting w.side) := by
  obtain ⟨actor, side⟩ := w
  cases side <;> rfl

theorem attempt_admitted {w : Waiter α} {g : Gate α} (open_ : g.admits w.side = true) :
    attempt w g = (true, g.enter w.side) := by
  rw [attempt, if_pos open_]

theorem attempt_barred {w : Waiter α} {g : Gate α} (shut : g.admits w.side = false) :
    attempt w g = (false, { g with asleep := g.asleep ++ [w] }) := by
  rw [attempt, if_neg (Bool.eq_false_iff.mp shut)]

theorem admits_read {g : Gate α} :
    g.admits .read = true ↔ g.writer = false ∧ g.writersWaiting = 0 := by
  simp [admits]

theorem admits_write {g : Gate α} :
    g.admits .write = true ↔ g.writer = false ∧ g.readers = 0 := by
  simp [admits]

end Gate

namespace Waiter

/-- The threads of a group that are there for one side, once for each time. -/
def on (side : Side) (group : List (Waiter α)) : List α :=
  (group.filter fun w => w.side = side).map Waiter.actor

@[simp] theorem on_cons (side : Side) (w : Waiter α) (rest : List (Waiter α)) :
    on side (w :: rest) = if w.side = side then w.actor :: on side rest else on side rest := by
  by_cases same : w.side = side <;> simp [on, same]

theorem on_perm (side : Side) {group other : List (Waiter α)} (perm : group.Perm other) :
    (on side group).Perm (on side other) := (perm.filter _).map _

theorem mem_on {side : Side} {group : List (Waiter α)} {a : α} :
    a ∈ on side group ↔ ⟨a, side⟩ ∈ group := by
  constructor
  · intro member
    obtain ⟨w, listed, rfl⟩ := List.mem_map.mp member
    obtain ⟨here, same⟩ := List.mem_filter.mp listed
    have side_eq : w.side = side := by simpa using same
    exact side_eq ▸ here
  · intro member
    exact List.mem_map.mpr ⟨⟨a, side⟩, List.mem_filter.mpr ⟨member, by simp⟩, rfl⟩

/-- How many there are for a side before one thread has left its own. -/
theorem length_on_erase [DecidableEq α] {w : Waiter α} {group : List (Waiter α)} (there : w ∈ group)
    (side : Side) : (on side group).length =
      (if w.side = side then 1 else 0) + (on side (group.erase w)).length := by
  rw [(on_perm side (List.perm_cons_erase there)).length_eq, on_cons]
  by_cases same : w.side = side
  · rw [if_pos same, if_pos same, List.length_cons, Nat.add_comm]
  · rw [if_neg same, if_neg same, Nat.zero_add]

end Waiter

/-- The gate, and who holds a side of it. A thread that holds a side twice is listed twice. -/
structure Crowd (α : Type) where
  gate : Gate α := {}
  holding : List (Waiter α) := []

namespace Crowd

/-- Who holds a side. -/
def holders (side : Side) (c : Crowd α) : List α := Waiter.on side c.holding

/-- Who waits for a side, asleep or woken. -/
def waiting (side : Side) (c : Crowd α) : List α := Waiter.on side c.gate.inside

/-- A thread that waits for a side can do nothing else. -/
def IsFree (a : α) (c : Crowd α) : Prop := a ∉ c.gate.inside.map Waiter.actor

/-- The crowd after someone has tried to enter. -/
def tried (w : Waiter α) (c : Crowd α) (outcome : Bool × Gate α) : Crowd α :=
  { gate := outcome.2, holding := if outcome.1 then w :: c.holding else c.holding }

variable [DecidableEq α]

/-- One step of one thread. A thread that holds a side already may ask for another where that is
`nested`. -/
inductive Step (nested : Bool) : Crowd α → Crowd α → Prop where
  | arrive {c w} (free : c.IsFree w.actor)
      (unburdened : nested = true ∨ w.actor ∉ c.holding.map Waiter.actor) :
      Step nested c (c.tried w (c.gate.arrive w))
  /-- Those who were woken try again in any order. -/
  | resume {c w} (woken : w ∈ c.gate.awake) :
      Step nested c (c.tried w (Gate.attempt w { c.gate with awake := c.gate.awake.erase w }))
  | releaseRead {c a} (free : c.IsFree a) (held : ⟨a, .read⟩ ∈ c.holding) :
      Step nested c { gate := c.gate.releaseRead, holding := c.holding.erase ⟨a, .read⟩ }
  | releaseWrite {c a} (free : c.IsFree a) (held : ⟨a, .write⟩ ∈ c.holding) :
      Step nested c { gate := c.gate.releaseWrite, holding := c.holding.erase ⟨a, .write⟩ }

/-- One crowd comes out of another after any number of steps. -/
abbrev Leads (nested : Bool) : Crowd α → Crowd α → Prop := Relation.ReflTransGen (Step nested)

/-! ### The order in which the gate lets them try -/

variable {nested : Bool} {c c' : Crowd α}

/-- That the first of those who were woken tries again is one of the steps. -/
theorem step_resume {w : Waiter α} {outcome : Bool × Gate α}
    (next : c.gate.resume = some (w, outcome)) : Step nested c (c.tried w outcome) := by
  unfold Gate.resume at next
  cases woken : c.gate.awake with
  | nil =>
    rw [woken] at next
    cases next
  | cons first rest =>
    rw [woken] at next
    cases next
    have member : w ∈ c.gate.awake := woken ▸ List.mem_cons_self
    have rest_eq : c.gate.awake.erase w = rest := by rw [woken, List.erase_cons_head]
    exact rest_eq ▸ Step.resume member

/-- To let some of those who were woken try again one after the other is a run, in which those who
are said to have entered come to hold their side. -/
theorem leads_settleFor (turns : Nat) (c : Crowd α) :
    ∃ c', Leads nested c c' ∧ c'.gate = (Gate.settleFor turns c.gate).2 ∧
      c'.holding.map Waiter.actor =
        (Gate.settleFor turns c.gate).1.reverse ++ c.holding.map Waiter.actor := by
  induction turns generalizing c with
  | zero => exact ⟨c, .refl, rfl, rfl⟩
  | succ turns ih =>
    cases next : c.gate.resume with
    | none => exact ⟨c, .refl, by simp [Gate.settleFor, next], by simp [Gate.settleFor, next]⟩
    | some tried =>
      obtain ⟨w, entered, g⟩ := tried
      obtain ⟨c', leads, gate, holding⟩ := ih (c.tried w (entered, g))
      refine ⟨c', .head (step_resume next) leads, ?_, ?_⟩
      · rw [gate]
        simp [Gate.settleFor, next, Crowd.tried]
      · rw [holding]
        cases entered <;> simp [Gate.settleFor, next, Crowd.tried]

/-! ### What every step keeps -/

/-- The counters agree with who holds a side and who waits for one, here together with those who are
just trying to enter. -/
structure Kept (nested : Bool) (g : Gate α) (holding trying : List (Waiter α)) : Prop where
  readers : g.readers = (Waiter.on .read holding).length
  writer : (Waiter.on .write holding).length = if g.writer then 1 else 0
  writersWaiting : g.writersWaiting = (Waiter.on .write (trying ++ g.inside)).length
  /-- A writer is alone. -/
  alone : g.writer = true → g.readers = 0
  /-- Nobody waits twice. -/
  once : ((trying ++ g.inside).map Waiter.actor).Nodup
  single : nested = false → ((trying ++ g.inside ++ holding).map Waiter.actor).Nodup
  /-- Whoever sleeps could not enter. -/
  barred : ∀ w ∈ g.asleep, g.admits w.side = false

variable {g : Gate α} {holding : List (Waiter α)} {w : Waiter α} {a : α}

omit [DecidableEq α] in
private theorem kept_start : Kept nested ({} : Gate α) [] [] where
  readers := rfl
  writer := rfl
  writersWaiting := rfl
  alone := nofun
  once := List.nodup_nil
  single _ := List.nodup_nil
  barred := nofun

namespace Kept

omit [DecidableEq α] in
/-- Somebody new comes to the gate. -/
theorem expecting (kept : Kept nested g holding []) (free : w.actor ∉ g.inside.map Waiter.actor)
    (unburdened : nested = true ∨ w.actor ∉ holding.map Waiter.actor) :
    Kept nested (g.expecting w.side) holding [w] := by
  have once : ((w :: g.inside).map Waiter.actor).Nodup :=
    List.nodup_cons.mpr ⟨free, kept.once⟩
  have single (plain : nested = false) : ((w :: g.inside ++ holding).map Waiter.actor).Nodup := by
    have apart : w.actor ∉ holding.map Waiter.actor := by
      rcases unburdened with allowed | apart
      · exact absurd (plain.symm.trans allowed) Bool.false_ne_true
      · exact apart
    refine List.nodup_cons.mpr ⟨?_, kept.single plain⟩
    intro member
    rcases List.mem_append.mp (List.map_append ▸ member) with waits | holds
    · exact free waits
    · exact apart holds
  obtain ⟨actor, side⟩ := w
  cases side with
  | read => exact { kept with once, single }
  | write =>
    refine { kept with once, single, writersWaiting := ?_, barred := ?_ }
    · have before := kept.writersWaiting
      simp only [Gate.expecting, Gate.inside, List.nil_append, List.cons_append, Waiter.on_cons,
        if_true, List.length_cons] at before ⊢
      omega
    · -- One more writer who waits opens the gate for nobody.
      intro other asleep
      have shut := kept.barred other asleep
      obtain ⟨_, side⟩ := other
      cases side with
      | read =>
        have counted : (0 : Int) ≤ g.writersWaiting := by
          rw [kept.writersWaiting]
          exact Int.natCast_nonneg _
        apply Bool.eq_false_iff.mpr
        intro admitted
        have := (Gate.admits_read.mp admitted).2
        simp only [Gate.expecting] at this
        omega
      | write => exact shut

/-- Someone who was woken is about to try again. -/
theorem taken (kept : Kept nested g holding []) (woken : w ∈ g.awake) :
    Kept nested { g with awake := g.awake.erase w } holding [w] := by
  have same : (w :: (g.asleep ++ g.awake.erase w)).Perm (g.asleep ++ g.awake) :=
    List.perm_middle.symm.trans ((List.perm_cons_erase woken).symm.append_left g.asleep)
  refine { kept with writersWaiting := ?_, once := ?_, single := ?_ }
  · exact kept.writersWaiting.trans
      (congrArg Nat.cast (Waiter.on_perm .write same).length_eq.symm)
  · exact (same.map Waiter.actor).nodup_iff.mpr kept.once
  · intro plain
    exact ((same.append_right holding).map Waiter.actor).nodup_iff.mpr (kept.single plain)

omit [DecidableEq α] in
theorem enter (kept : Kept nested g holding [w]) (admitted : g.admits w.side = true) :
    Kept nested (g.enter w.side) (w :: holding) [] := by
  have single (plain : nested = false) : ((g.inside ++ w :: holding).map Waiter.actor).Nodup :=
    (List.perm_middle.map Waiter.actor).nodup_iff.mpr (kept.single plain)
  have once : (g.inside.map Waiter.actor).Nodup := (List.nodup_cons.mp kept.once).2
  have counted := kept.readers
  have lone := kept.writer
  have queued := kept.writersWaiting
  obtain ⟨actor, side⟩ := w
  cases side with
  | read =>
    obtain ⟨idle, none⟩ := Gate.admits_read.mp admitted
    refine ⟨?_, ?_, queued, ?_, once, single, ?_⟩
    · simp [Gate.enter, counted]
    · exact lone
    · intro writes
      exact absurd (idle.symm.trans writes) Bool.false_ne_true
    · intro other asleep
      have shut := kept.barred other asleep
      obtain ⟨_, side⟩ := other
      cases side with
      | read => exact shut
      | write =>
        apply Bool.eq_false_iff.mpr
        intro free
        have := (Gate.admits_write.mp free).2
        simp only [Gate.enter] at this
        omega
  | write =>
    obtain ⟨idle, empty⟩ := Gate.admits_write.mp admitted
    refine ⟨?_, ?_, ?_, ?_, once, single, ?_⟩
    · simpa [Gate.enter] using counted
    · simpa [Gate.enter, idle] using lone
    · simp only [List.cons_append, List.nil_append, Waiter.on_cons, if_true,
        List.length_cons] at queued
      change g.writersWaiting - 1 = ((Waiter.on .write g.inside).length : Int)
      omega
    · intro _
      exact empty
    · intro other _
      obtain ⟨_, side⟩ := other
      cases side <;> rfl

omit [DecidableEq α] in
private theorem fallAsleep (kept : Kept nested g holding [w]) (shut : g.admits w.side = false) :
    Kept nested { g with asleep := g.asleep ++ [w] } holding [] := by
  have same : (g.asleep ++ [w] ++ g.awake).Perm (w :: (g.asleep ++ g.awake)) := by
    rw [List.append_assoc]
    exact List.perm_middle
  refine { kept with writersWaiting := ?_, once := ?_, single := ?_, barred := ?_ }
  · exact kept.writersWaiting.trans
      (congrArg Nat.cast (Waiter.on_perm .write same).length_eq.symm)
  · exact (same.map Waiter.actor).nodup_iff.mpr kept.once
  · intro plain
    exact ((same.append_right holding).map Waiter.actor).nodup_iff.mpr (kept.single plain)
  · intro other asleep
    rcases List.mem_append.mp asleep with before | last
    · exact kept.barred other before
    · rw [List.mem_singleton.mp last]
      exact shut

omit [DecidableEq α] in
theorem attempt (kept : Kept nested g holding [w]) :
    Kept nested (g.attempt w).2 (if (g.attempt w).1 then w :: holding else holding) [] := by
  cases admitted : g.admits w.side with
  | true =>
    rw [Gate.attempt_admitted admitted]
    exact kept.enter admitted
  | false =>
    rw [Gate.attempt_barred admitted]
    exact kept.fallAsleep admitted

omit [DecidableEq α] in
/-- To wake all sleepers keeps who waits. -/
theorem wakeAll (kept : Kept nested { g with asleep := [], awake := g.asleep ++ g.awake } holding []) :
    Kept nested g.wakeAll holding [] := by
  have same : (g.awake ++ g.asleep).Perm (g.asleep ++ g.awake) := List.perm_append_comm
  refine { kept with writersWaiting := ?_, once := ?_, single := ?_ }
  · exact kept.writersWaiting.trans
      (congrArg Nat.cast (Waiter.on_perm .write same).length_eq.symm)
  · exact (same.map Waiter.actor).nodup_iff.mpr kept.once
  · intro plain
    exact ((same.append_right holding).map Waiter.actor).nodup_iff.mpr (kept.single plain)

private theorem single_erase (kept : Kept nested g holding []) (plain : nested = false) :
    ((g.inside ++ holding.erase w).map Waiter.actor).Nodup :=
  (kept.single plain).sublist ((List.erase_sublist.append_left g.inside).map Waiter.actor)

theorem releaseRead (kept : Kept nested g holding []) (held : ⟨a, .read⟩ ∈ holding) :
    Kept nested g.releaseRead (holding.erase ⟨a, .read⟩) [] := by
  have readers := Waiter.length_on_erase held .read
  have writers := Waiter.length_on_erase held .write
  simp only [if_true, reduceCtorEq, if_false, Nat.zero_add] at readers writers
  have counted := kept.readers
  have idle : g.writer = false := by
    apply Bool.eq_false_iff.mpr
    intro writes
    have := kept.alone writes
    omega
  have left (asleep awake : List (Waiter α)) (same : asleep ++ awake = g.inside)
      (barred : ∀ w ∈ asleep, w ∈ g.asleep ∧ g.readers - 1 ≠ 0) :
      Kept nested { g with readers := g.readers - 1, asleep, awake }
        (holding.erase ⟨a, .read⟩) [] := by
    refine ⟨?_, ?_, ?_, ?_, ?_, ?_, ?_⟩
    · simp only
      omega
    · rw [← writers]
      exact kept.writer
    · simpa only [Gate.inside, same] using kept.writersWaiting
    · intro writes
      exact absurd (idle.symm.trans writes) Bool.false_ne_true
    · simpa only [Gate.inside, same] using kept.once
    · intro plain
      have single := kept.single_erase (w := ⟨a, .read⟩) plain
      simpa only [Gate.inside, same, List.nil_append] using single
    · intro other asleep
      obtain ⟨before, others⟩ := barred other asleep
      have shut := kept.barred other before
      obtain ⟨_, side⟩ := other
      cases side with
      | read => exact shut
      | write =>
        apply Bool.eq_false_iff.mpr
        intro free
        exact others (Gate.admits_write.mp free).2
  unfold Gate.releaseRead
  by_cases last : g.readers - 1 = 0
  · simp only [last, if_true]
    have woken := left [] (g.asleep ++ g.awake) rfl (by simp)
    rw [last] at woken
    exact wakeAll (g := { g with readers := 0 }) woken
  · simp only [last, if_false]
    exact left g.asleep g.awake rfl fun w asleep => ⟨asleep, last⟩

theorem releaseWrite (kept : Kept nested g holding []) (held : ⟨a, .write⟩ ∈ holding) :
    Kept nested g.releaseWrite (holding.erase ⟨a, .write⟩) [] := by
  have readers := Waiter.length_on_erase held .read
  have writers := Waiter.length_on_erase held .write
  simp only [if_true, reduceCtorEq, if_false, Nat.zero_add] at readers writers
  have counted := kept.readers
  -- The one who leaves was the only writer.
  have none : (Waiter.on .write (holding.erase ⟨a, .write⟩)).length = 0 := by
    have lone := kept.writer
    split at lone <;> omega
  apply wakeAll
  refine ⟨?_, none, kept.writersWaiting, nofun, kept.once, ?_, nofun⟩
  · simp only
    omega
  · intro plain
    exact kept.single_erase plain

end Kept

theorem Step.kept (step : Step nested c c') (kept : Kept nested c.gate c.holding []) :
    Kept nested c'.gate c'.holding [] := by
  cases step with
  | arrive free unburdened =>
    rw [Gate.arrive_eq]
    exact (kept.expecting free unburdened).attempt
  | resume woken => exact (kept.taken woken).attempt
  | releaseRead free held => exact kept.releaseRead held
  | releaseWrite free held => exact kept.releaseWrite held

theorem Leads.kept (leads : Leads nested {} c) : Kept nested c.gate c.holding [] := by
  induction leads with
  | refl => exact kept_start
  | tail _ step ih => exact step.kept ih

end Crowd

end MemoAssist

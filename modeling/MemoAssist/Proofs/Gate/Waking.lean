import MemoAssist.Proofs.Gate.Exclusion

/-! Nobody sleeps in front of an open gate. Whoever sleeps has a reason to, so whoever could enter
has been woken; and when nobody holds the gate, somebody who waits for it can enter at once. -/
namespace MemoAssist.Crowd

variable {α : Type} [DecidableEq α] {nested : Bool} {c : Crowd α}

/-- What holds at any moment of those who wait. -/
structure Wakeful (nested : Bool) (c : Crowd α) : Prop where
  barred : ∀ w ∈ c.gate.asleep, c.gate.admits w.side = false
  /-- A reader sleeps only while a writer holds the gate or waits for it. -/
  reader : ∀ a, ⟨a, .read⟩ ∈ c.gate.asleep → c.holders .write ≠ [] ∨ c.waiting .write ≠ []
  /-- A writer sleeps only while somebody holds the gate. -/
  writer : ∀ a, ⟨a, .write⟩ ∈ c.gate.asleep → c.holding ≠ []
  woken : ∀ w ∈ c.gate.inside, c.gate.admits w.side = true → w ∈ c.gate.awake
  /-- When nobody holds the gate, somebody who waits for it has been woken, and enters as soon as it
  tries again. -/
  goesOn : c.holding = [] → c.gate.inside ≠ [] →
    ∃ w ∈ c.gate.awake, c.gate.admits w.side = true ∧
      ∃ c', Step nested c c' ∧ c'.holding = [w]

namespace Kept

variable {w : Waiter α}

omit [DecidableEq α] in
theorem woken (kept : Kept nested c.gate c.holding []) (waits : w ∈ c.gate.inside)
    (admitted : c.gate.admits w.side = true) : w ∈ c.gate.awake := by
  rcases List.mem_append.mp waits with asleep | awake
  · have shut := kept.barred w asleep
    exact absurd (shut.symm.trans admitted) Bool.false_ne_true
  · exact awake

omit [DecidableEq α] in
private theorem reader_asleep {a : α} (kept : Kept nested c.gate c.holding [])
    (asleep : ⟨a, .read⟩ ∈ c.gate.asleep) : c.holders .write ≠ [] ∨ c.waiting .write ≠ [] := by
  have shut := kept.barred _ asleep
  have lone := kept.writer
  have counted := kept.writersWaiting
  cases writes : c.gate.writer with
  | true =>
    left
    rw [writes] at lone
    exact List.ne_nil_of_length_eq_add_one lone
  | false =>
    right
    intro none
    have empty : c.gate.writersWaiting = 0 := counted.trans (congrArg (fun l => (l.length : Int)) none)
    have admitted := Gate.admits_read.mpr ⟨writes, empty⟩
    exact absurd (shut.symm.trans admitted) Bool.false_ne_true

omit [DecidableEq α] in
/-- A gate that nobody holds lets any writer in. -/
theorem admits_write (kept : Kept nested c.gate c.holding []) (free : c.holding = []) :
    c.gate.admits .write = true := by
  have counted := kept.readers
  have lone := kept.writer
  rw [free] at counted lone
  refine Gate.admits_write.mpr ⟨?_, counted⟩
  by_contra writes
  rw [if_pos (Bool.of_not_eq_false writes)] at lone
  exact absurd lone Nat.zero_ne_one

omit [DecidableEq α] in
private theorem writer_asleep {a : α} (kept : Kept nested c.gate c.holding [])
    (asleep : ⟨a, .write⟩ ∈ c.gate.asleep) : c.holding ≠ [] := by
  intro free
  have shut := kept.barred _ asleep
  exact absurd (shut.symm.trans (kept.admits_write free)) Bool.false_ne_true

omit [DecidableEq α] in
/-- When nobody holds the gate, it lets in any writer who waits, and any reader if no writer does. -/
theorem admitted (kept : Kept nested c.gate c.holding []) (free : c.holding = [])
    (waited : c.gate.inside ≠ []) : ∃ w ∈ c.gate.inside, c.gate.admits w.side = true := by
  have writes := kept.admits_write free
  by_cases none : c.waiting .write = []
  · obtain ⟨w, waits⟩ := List.exists_mem_of_ne_nil _ waited
    have idle := (Gate.admits_write.mp writes).1
    have empty : c.gate.writersWaiting = 0 :=
      kept.writersWaiting.trans (congrArg (fun l => (l.length : Int)) none)
    refine ⟨w, waits, ?_⟩
    cases w.side with
    | read => exact Gate.admits_read.mpr ⟨idle, empty⟩
    | write => exact writes
  · obtain ⟨a, waits⟩ := List.exists_mem_of_ne_nil _ none
    exact ⟨⟨a, .write⟩, Waiter.mem_on.mp waits, writes⟩

private theorem goesOn (kept : Kept nested c.gate c.holding []) (free : c.holding = [])
    (waited : c.gate.inside ≠ []) : ∃ w ∈ c.gate.awake, c.gate.admits w.side = true ∧
      ∃ c', Step nested c c' ∧ c'.holding = [w] := by
  obtain ⟨w, waits, admitted⟩ := kept.admitted free waited
  have awake := kept.woken waits admitted
  refine ⟨w, awake, admitted, _, .resume awake, ?_⟩
  have still : Gate.admits { c.gate with awake := c.gate.awake.erase w } w.side = true := by
    cases side : w.side <;> rw [side] at admitted <;> exact admitted
  rw [Gate.attempt_admitted still]
  exact congrArg (w :: ·) free

end Kept

/-- Any number of threads come, try again and leave in any order, and each leaves only a side that
it holds: no thread is left asleep that could enter, and a gate that nobody holds is open for
somebody who is awake. -/
theorem wakeful (leads : Leads nested {} c) : c.Wakeful nested where
  barred := leads.kept.barred
  reader _ asleep := leads.kept.reader_asleep asleep
  writer _ asleep := leads.kept.writer_asleep asleep
  woken _ waits admitted := leads.kept.woken waits admitted
  goesOn free waited := leads.kept.goesOn free waited

/-- The reader has left: the writer and the other reader are awake. -/
def vacated : Crowd Nat :=
  { gate := { writersWaiting := 1, awake := [⟨1, .write⟩, ⟨2, .read⟩] } }

private theorem leads_vacated : Leads false {} vacated := by
  have left : Step false queued vacated :=
    .releaseRead (a := 0) (by simp [IsFree, queued, Gate.inside]) (by simp [queued])
  exact leads_queued.tail left

/-- The writer can enter, and the reader who is awake as well cannot. -/
theorem wakeful_vacated : Leads false {} vacated ∧ vacated.Wakeful false ∧
    vacated.gate.admits .write = true ∧ vacated.gate.admits .read = false :=
  ⟨leads_vacated, wakeful leads_vacated, rfl, rfl⟩

end MemoAssist.Crowd

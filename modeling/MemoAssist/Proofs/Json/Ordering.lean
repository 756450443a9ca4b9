import MemoAssist.Proofs.Json.Sorting
import Mathlib.Algebra.Order.Group.Int

namespace MemoAssist.Sorting

variable {α : Type} {less : α → α → Except Fault Bool} {key : α → Int} {good : α → Prop}

/-- Among good elements the comparison tells which of two has the smaller key. -/
def Tells (good : α → Prop) (key : α → Int) (less : α → α → Except Fault Bool) : Prop :=
  ∀ x y, good x → good y → less x y = .ok (decide (key x < key y))

/-- The keys do not fall from front to back. -/
abbrev Rising (key : α → Int) (xs : List α) : Prop := xs.Pairwise fun x y => key x ≤ key y

/-- How the last element of a stretch, which comes first, goes with those before it. -/
def Goes (key : α → Int) : (falling : Bool) → α → α → Prop
  | true, x, y => key x < key y
  | false, x, y => key y ≤ key x

theorem Goes.trans {falling : Bool} {x y z : α} (first : Goes key falling x y)
    (second : Goes key falling y z) : Goes key falling x z := by
  cases falling with
  | true => exact Int.lt_trans first second
  | false => exact Int.le_trans second first

private theorem goes_of_told {x y : α} {falling : Bool} (told : decide (key x < key y) = falling) :
    Goes key falling x y := by
  cases falling with
  | true =>
    have smaller : key x < key y := of_decide_eq_true told
    exact smaller
  | false =>
    have greater : ¬ key x < key y := of_decide_eq_false told
    exact not_lt.mp greater

private theorem stretch_goes (tells : Tells good key less) (falling : Bool) {xs : List α}
    (fine : ∀ x ∈ xs, good x) : ∀ last behind, good last →
      (last :: behind).Pairwise (Goes key falling) →
        ∃ run rest, stretch less falling last behind xs = .ok (run, rest) ∧
          run.Pairwise (Goes key falling) := by
  induction xs with
  | nil => exact fun last behind _ going => ⟨_, _, rfl, going⟩
  | cons x xs ih =>
    intro last behind known going
    obtain ⟨here, later⟩ := List.forall_mem_cons.mp fine
    have compared := tells x last here known
    by_cases told : decide (key x < key last) = falling
    · have step : Goes key falling x last := goes_of_told told
      have longer : (x :: last :: behind).Pairwise (Goes key falling) := by
        refine List.pairwise_cons.mpr ⟨fun y member => ?_, going⟩
        rcases List.mem_cons.mp member with rfl | before
        · exact step
        · exact step.trans (List.rel_of_pairwise_cons going before)
      obtain ⟨run, rest, done, whole⟩ := ih later x (last :: behind) here longer
      refine ⟨run, rest, ?_, whole⟩
      rw [stretch, compared]
      exact (if_pos told).trans done
    · refine ⟨last :: behind, x :: xs, ?_, going⟩
      rw [stretch, compared]
      exact if_neg told

private theorem firstRun_rising (tells : Tells good key less) {xs : List α} (fine : ∀ x ∈ xs, good x) :
    ∃ run rest, firstRun less xs = .ok (run, rest) ∧ Rising key run := by
  match xs with
  | [] => exact ⟨_, _, rfl, .nil⟩
  | [x] => exact ⟨_, _, rfl, List.pairwise_singleton _ _⟩
  | x :: y :: xs =>
    obtain ⟨first, second, later⟩ := by simpa using fine
    have compared := tells y x second first
    have pair : [y, x].Pairwise (Goes key (decide (key y < key x))) :=
      List.pairwise_pair.mpr (goes_of_told rfl)
    obtain ⟨run, rest, done, going⟩ := stretch_goes tells _ later y [x] second pair
    refine ⟨if decide (key y < key x) then run else run.reverse, rest, ?_, ?_⟩
    · rw [firstRun, compared]
      change (stretch less _ y [x] xs >>= _) = _
      rw [done]
      rfl
    · generalize decide (key y < key x) = falling at going
      cases falling with
      | true => exact going.imp fun smaller => le_of_lt smaller
      | false => exact List.pairwise_reverse.mpr going

/-- The place that halving ends in: nothing before it is greater, and everything behind it is. -/
theorem place_parts (tells : Tells good key less) {x : α} (here : good x) {sorted : List α}
    (fine : ∀ y ∈ sorted, good y) (rising : Rising key sorted) (steps : Nat) :
    ∀ low high, high ≤ sorted.length → high - low ≤ steps → low ≤ high →
      (∀ y ∈ sorted.take low, key y ≤ key x) → (∀ y ∈ sorted.drop high, key x < key y) →
        ∃ i, place less x sorted steps low high = .ok i ∧
          (∀ y ∈ sorted.take i, key y ≤ key x) ∧ ∀ y ∈ sorted.drop i, key x < key y := by
  induction steps with
  | zero =>
    intro low high _ close ordered before behind
    obtain rfl : low = high := by omega
    exact ⟨low, rfl, before, behind⟩
  | succ steps ih =>
    intro low high inside close ordered before behind
    rw [place]
    by_cases apart : low < high
    · rw [if_pos apart]
      dsimp only
      generalize middle_eq : low + (high - low) / 2 = middle
      have within : middle < sorted.length := by omega
      have split : sorted.take middle ++ sorted[middle] :: sorted.drop (middle + 1) = sorted := by
        rw [List.getElem_cons_drop, List.take_append_drop]
      have parts := rising
      rw [← split, Rising, List.pairwise_append, List.pairwise_cons] at parts
      obtain ⟨-, ⟨behindMiddle, -⟩, beforeMiddle⟩ := parts
      rw [List.getElem?_eq_getElem within]
      dsimp only
      rw [tells x _ here (fine _ (List.getElem_mem within))]
      change ∃ i, (if decide (key x < key sorted[middle]) = true then _ else _) = Except.ok i ∧ _
      by_cases smaller : key x < key sorted[middle]
      · rw [if_pos (decide_eq_true smaller)]
        refine ih low middle (by omega) (by omega) (by omega) before fun y member => ?_
        rw [← List.getElem_cons_drop within] at member
        rcases List.mem_cons.mp member with rfl | later
        · exact smaller
        · exact lt_of_lt_of_le smaller (behindMiddle y later)
      · rw [if_neg (by simpa using smaller)]
        refine ih (middle + 1) high inside (by omega) (by omega) (fun y member => ?_) behind
        rw [List.take_succ_eq_append_getElem within, List.mem_append, List.mem_singleton] at member
        rcases member with earlier | rfl
        · exact (beforeMiddle y earlier _ List.mem_cons_self).trans (not_lt.mp smaller)
        · exact not_lt.mp smaller
    · rw [if_neg apart]
      obtain rfl : low = high := by omega
      exact ⟨low, rfl, before, behind⟩

private theorem insertAll_rising (tells : Tells good key less) {xs : List α} (fine : ∀ x ∈ xs, good x) :
    ∀ sorted, (∀ y ∈ sorted, good y) → Rising key sorted →
      ∃ ys, insertAll less sorted xs = .ok ys ∧ Rising key ys := by
  induction xs with
  | nil => exact fun sorted _ rising => ⟨sorted, rfl, rising⟩
  | cons x xs ih =>
    intro sorted known rising
    obtain ⟨here, later⟩ := List.forall_mem_cons.mp fine
    obtain ⟨i, placed, before, behind⟩ := place_parts tells here known rising (sorted.length + 1) 0
      sorted.length le_rfl (by omega) (Nat.zero_le _) (by simp) (by simp)
    have put : (sorted.take i ++ x :: sorted.drop i).Perm (x :: sorted) := by
      refine List.perm_middle.trans (.cons x ?_)
      rw [List.take_append_drop]
    have grown : Rising key (sorted.take i ++ x :: sorted.drop i) := by
      refine List.pairwise_append.mpr ⟨rising.sublist (List.take_sublist _ _),
        List.pairwise_cons.mpr ⟨fun y member => (behind y member).le,
          rising.sublist (List.drop_sublist _ _)⟩, fun y earlier z member => ?_⟩
      rcases List.mem_cons.mp member with rfl | after
      · exact before y earlier
      · exact (before y earlier).trans (behind z after).le
    have fine : ∀ y ∈ sorted.take i ++ x :: sorted.drop i, good y := fun y member =>
      List.forall_mem_cons.mpr ⟨here, known⟩ y (put.mem_iff.mp member)
    obtain ⟨ys, done, whole⟩ := ih later _ fine grown
    refine ⟨ys, ?_, whole⟩
    rw [insertAll, placed]
    exact done

/-- Good elements can be sorted, and come out in the order of their keys. -/
theorem sort_rising {fails : Fault → Prop} (fair : Fair fails less) (tells : Tells good key less)
    {xs : List α} (fine : ∀ x ∈ xs, good x) :
    ∃ ys, sort less xs = .ok ys ∧ ys.Perm xs ∧ Rising key ys := by
  obtain ⟨run, rest, begun, rising⟩ := firstRun_rising tells fine
  have parts := ends_firstRun fair xs
  rw [begun] at parts
  have known : ∀ x ∈ run ++ rest, good x := fun x member => fine x (parts.1.mem_iff.mp member)
  obtain ⟨ys, done, whole⟩ :=
    insertAll_rising tells (fun x later => known x (List.mem_append_right _ later))
    run (fun x first => known x (List.mem_append_left _ first)) rising
  have sorted : sort less xs = .ok ys := by
    rw [sort, begun]
    exact done
  have perm := ends_sort fair xs
  rw [sorted] at perm
  exact ⟨ys, sorted, perm, whole⟩

end MemoAssist.Sorting

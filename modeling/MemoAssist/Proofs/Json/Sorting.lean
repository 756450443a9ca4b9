import MemoAssist.Json.Sorting.Runs
import MemoAssist.Proofs.Ending
import Mathlib.Data.List.Perm.Basic

/-! Sorting neither loses nor adds an element, whatever the comparison says: each part of a sort hands
on what it was given, in another order. A sort fails only where the comparison does. -/
namespace MemoAssist.Sorting

variable {α : Type} {fails : Fault → Prop}

/-- A comparison that fails in allowed ways only. -/
def Fair (fails : Fault → Prop) (less : α → α → Except Fault Bool) : Prop :=
  ∀ x y, Limits fails (less x y)

/-! ### Inserting -/

section Inserting

variable {less : α → α → Except Fault Bool}

private theorem ends_stretch (fair : Fair fails less) (falling : Bool) (xs : List α) :
    ∀ last behind, Ends fails (fun r => (r.1 ++ r.2).Perm (last :: behind ++ xs) ∧ r.1 ≠ [])
      (stretch less falling last behind xs) := by
  induction xs with
  | nil =>
    intro last behind
    exact ⟨.refl _, List.cons_ne_nil _ _⟩
  | cons x xs ih =>
    intro last behind
    apply (fair x last).bind
    intro answer
    split
    · exact (ih x (last :: behind)).imp fun r ⟨perm, filled⟩ =>
        ⟨perm.trans List.perm_middle.symm, filled⟩
    · exact ⟨.refl _, List.cons_ne_nil _ _⟩

theorem ends_firstRun (fair : Fair fails less) (xs : List α) :
    Ends fails (fun r => (r.1 ++ r.2).Perm xs ∧ (xs ≠ [] → r.1 ≠ [])) (firstRun less xs) := by
  match xs with
  | [] => exact ⟨.refl _, id⟩
  | [x] => exact ⟨.refl _, id⟩
  | x :: y :: xs =>
    refine (fair y x).bind fun falling => (ends_stretch fair falling xs y [x]).bind ?_
    rintro ⟨back, others⟩ ⟨perm, filled⟩
    have whole : (back ++ others).Perm (x :: y :: xs) := perm.trans (.swap x y xs)
    cases falling with
    | true => exact ⟨whole, fun _ => filled⟩
    | false =>
      refine ⟨((List.reverse_perm back).append_right _).trans whole, fun _ => ?_⟩
      simpa using filled

private theorem limits_place (fair : Fair fails less) (x : α) (sorted : List α) (steps : Nat) :
    ∀ low high, Limits fails (place less x sorted steps low high) := by
  induction steps with
  | zero => exact fun _ _ => trivial
  | succ steps ih =>
    intro low high
    rw [place]
    split
    · dsimp only
      split
      · trivial
      · apply (fair x _).bind
        intro answer
        split
        · exact ih _ _
        · exact ih _ _
    · trivial

private theorem ends_insertAll (fair : Fair fails less) (xs : List α) :
    ∀ sorted, Ends fails (fun ys => ys.Perm (sorted ++ xs)) (insertAll less sorted xs) := by
  induction xs with
  | nil =>
    intro sorted
    exact .of_eq (List.append_nil sorted).symm
  | cons x xs ih =>
    intro sorted
    apply (limits_place fair x sorted _ 0 _).bind
    intro place
    apply (ih _).imp
    intro ys perm
    have put : (sorted.take place ++ x :: sorted.drop place).Perm (x :: sorted) := by
      refine List.perm_middle.trans (.cons x ?_)
      rw [List.take_append_drop]
    exact perm.trans ((put.append_right xs).trans List.perm_middle.symm)

theorem ends_sort (fair : Fair fails less) (xs : List α) :
    Ends fails (fun ys => ys.Perm xs) (sort less xs) := by
  apply (ends_firstRun fair xs).bind
  rintro ⟨run, rest⟩ ⟨whole, _⟩
  exact (ends_insertAll fair rest run).imp fun ys perm => perm.trans whole

end Inserting

/-! ### Strides -/

section Strides

variable {passes : α → Except Fault Bool}

private theorem limits_reach (fair : ∀ x, Limits fails (passes x)) (xs : List α) (steps : Nat) :
    ∀ near far, Limits fails (reach passes xs steps near far) := by
  induction steps with
  | zero => exact fun _ _ => trivial
  | succ steps ih =>
    intro near far
    rw [reach]
    split
    · trivial
    · apply (fair _).bind
      intro answer
      split
      · exact ih _ _
      · trivial

private theorem limits_narrow (fair : ∀ x, Limits fails (passes x)) (back : Bool) (xs : List α)
    (steps : Nat) :
    ∀ low high, Limits fails (narrow passes back xs steps low high) := by
  induction steps with
  | zero => exact fun _ _ => trivial
  | succ steps ih =>
    intro low high
    rw [narrow]
    split
    · dsimp only
      split
      · trivial
      · apply (fair _).bind
        intro answer
        split
        · exact ih _ _
        · exact ih _ _
    · trivial

theorem limits_stride (fair : ∀ x, Limits fails (passes x)) (back : Bool) (xs : List α) :
    Limits fails (stride passes back xs) := by
  cases xs with
  | nil => trivial
  | cons x rest =>
    apply (fair x).bind
    intro answer
    split
    · exact (limits_reach fair _ _ 0 1).bind fun ⟨near, far⟩ => limits_narrow fair back _ _ _ _
    · trivial

end Strides

/-- To ask for the opposite fails where the question does. -/
theorem limits_not {x : Except Fault Bool} (limits : Limits fails x) :
    Limits fails (do return !(← x)) := limits.bind fun _ => trivial

/-! ### Merging two runs -/

namespace Progress

variable {p : Progress α}

/-- Everything that takes part in a merge. -/
def all (p : Progress α) : List α := p.done ++ p.left ++ p.right

theorem perm_close : p.close.Perm p.all := by
  unfold close all
  exact ((List.reverse_perm _).append_right _).append_right _

private theorem perm_closeSwapped : p.closeSwapped.Perm p.all := by
  unfold closeSwapped all
  rw [List.append_assoc, List.append_assoc]
  exact (List.reverse_perm _).append List.perm_append_comm

theorem perm_takeLeft (n : Nat) : (p.takeLeft n).all.Perm p.all := by
  unfold takeLeft all
  refine List.Perm.append_right _ ?_
  have parts : ((p.left.take n).reverse ++ p.left.drop n).Perm p.left := by
    conv_rhs => rw [← List.take_append_drop n p.left]
    exact (List.reverse_perm _).append_right _
  exact (List.perm_append_comm.append_right _).trans
    (by rw [List.append_assoc]; exact parts.append_left _)

private theorem perm_mirror : p.all.Perm (Progress.all ⟨p.done, p.right, p.left⟩) := by
  unfold all
  rw [List.append_assoc, List.append_assoc]
  exact List.perm_append_comm.append_left _

theorem perm_takeRight (n : Nat) : (p.takeRight n).all.Perm p.all := by
  have mirrored : (takeLeft n ⟨p.done, p.right, p.left⟩).all.Perm _ := perm_takeLeft n
  exact perm_mirror.trans (mirrored.trans perm_mirror)

theorem perm_ended {merged : List α} (ended : p.ended? = some merged) : merged.Perm p.all := by
  unfold ended? at ended
  split at ended
  · cases ended
    exact perm_close
  · split at ended
    · cases ended
      exact perm_closeSwapped
    · cases ended

end Progress

namespace Stridden

/-- Everything that takes part in a merge, once a stride is taken. -/
def all : Stridden α → List α
  | .ended merged => merged
  | .on _ p => p.all

end Stridden

namespace Course

open Progress

variable {c : Course α}

private theorem ends_strideLeft (fair : Fair fails c.less) (p : Progress α) :
    Ends fails (fun s => s.all.Perm p.all) (c.strideLeft p) := by
  unfold strideLeft
  split
  · exact perm_close
  · apply (limits_stride (fun x => limits_not (fair _ x)) _ _).bind
    intro n
    dsimp only
    split
    · rename_i ended
      exact (perm_ended ended).trans (perm_takeLeft n)
    · have taken := (perm_takeRight 1).trans (perm_takeLeft (p := p) n)
      split
      · exact perm_close.trans taken
      · exact taken

private theorem ends_strideRight (fair : Fair fails c.less) (p : Progress α) :
    Ends fails (fun s => s.all.Perm p.all) (c.strideRight p) := by
  unfold strideRight
  split
  · exact perm_close
  · apply (limits_stride (fun y => fair y _) _ _).bind
    intro n
    dsimp only
    split
    · exact perm_close.trans (perm_takeRight n)
    · have taken := (perm_takeLeft 1).trans (perm_takeRight (p := p) n)
      split
      · rename_i ended
        exact (perm_ended ended).trans taken
      · exact taken

/-- A merge by single elements and one by strides call each other, each with less fuel. -/
theorem ends_turns (fair : Fair fails c.less) (fuel : Nat) :
    (∀ patience leftWins rightWins p,
      Ends fails (fun r => r.1.Perm p.all) (bySingles c fuel patience leftWins rightWins p)) ∧
    (∀ patience p, Ends fails (fun r => r.1.Perm p.all) (byStrides c fuel patience p)) := by
  induction fuel with
  | zero => exact ⟨fun _ _ _ _ => perm_close, fun _ _ => perm_close⟩
  | succ fuel ih =>
    obtain ⟨singles, strides⟩ := ih
    constructor
    · intro patience leftWins rightWins p
      unfold bySingles
      split
      · apply (fair _ _).bind
        intro rightWon
        have taken : (if rightWon then p.takeRight 1 else p.takeLeft 1).all.Perm p.all := by
          split
          · exact perm_takeRight 1
          · exact perm_takeLeft 1
        dsimp only
        generalize (if rightWon then p.takeRight 1 else p.takeLeft 1) = q at taken ⊢
        generalize (if rightWon then 0 else leftWins + 1) = left
        generalize (if rightWon then rightWins + 1 else 0) = right
        split
        · rename_i ended
          exact (perm_ended ended).trans taken
        · split
          · exact (strides _ q).imp fun _ perm => perm.trans taken
          · exact (singles _ _ _ q).imp fun _ perm => perm.trans taken
      · exact perm_close
    · intro patience p
      have go (first second : Nat) (q : Progress α) (taken : q.all.Perm p.all) :
          Ends fails (fun r => r.1.Perm p.all)
            (if worthwhile ≤ max first second then byStrides c fuel (max 1 (patience - 1)) q
              else bySingles c fuel (patience + 1) 0 0 q) := by
        split
        · exact (strides _ q).imp fun _ perm => perm.trans taken
        · exact (singles _ _ _ q).imp fun _ perm => perm.trans taken
      unfold byStrides
      -- Which of the two strides comes first depends on the direction of the merge.
      cases back : c.back with
      | true =>
        simp only [if_true]
        apply (ends_strideRight fair p).bind
        intro one perm
        cases one with
        | ended early => exact perm
        | on first q =>
          apply (ends_strideLeft fair q).bind
          intro two perm'
          cases two with
          | ended early => exact perm'.trans perm
          | on second r => exact go first second r (perm'.trans perm)
      | false =>
        simp only [Bool.false_eq_true, if_false]
        apply (ends_strideLeft fair p).bind
        intro one perm
        cases one with
        | ended early => exact perm
        | on first q =>
          apply (ends_strideRight fair q).bind
          intro two perm'
          cases two with
          | ended early => exact perm'.trans perm
          | on second r => exact go first second r (perm'.trans perm)

private theorem ends_merge (fair : Fair fails c.less) (patience : Nat) (left right : List α) :
    Ends fails (fun r => r.1.Perm (left ++ right)) (c.merge patience left right) := by
  have taken : (Progress.takeRight 1 ⟨[], left, right⟩).all.Perm (left ++ right) := perm_takeRight 1
  unfold merge
  dsimp only
  split
  · rename_i ended
    exact (perm_ended ended).trans taken
  · exact ((ends_turns fair _).1 _ _ _ _).imp fun _ perm => perm.trans taken

end Course

section Merging

variable {less : α → α → Except Fault Bool}

/-- What is left out of a merge at either end stays where it was. -/
theorem perm_framed {left right inner : List α} (front count : Nat)
    (perm : inner.Perm (left.drop front ++ right.take count)) :
    (left.take front ++ inner ++ right.drop count).Perm (left ++ right) := by
  refine ((perm.append_left _).append_right _).trans (.of_eq ?_)
  rw [← List.append_assoc, List.take_append_drop, List.append_assoc, List.take_append_drop]

theorem ends_mergeRuns (fair : Fair fails less) (patience : Nat) (left right : List α) :
    Ends fails (fun r => r.1.Perm (left ++ right)) (mergeRuns less patience left right) := by
  cases right with
  | nil => exact .of_eq (List.append_nil left).symm
  | cons y right =>
    apply (limits_stride (fun x => limits_not (fair y x)) _ _).bind
    intro front
    dsimp only
    split
    · exact .refl _
    · apply (limits_stride (fun x => limits_not (fair x _)) _ _).bind
      intro behind
      generalize (y :: right).length - behind = count
      split
      · exact .refl _
      · split
        · apply (Course.ends_merge fair _ _ _).bind
          rintro ⟨inner, patience⟩ perm
          exact perm_framed front count perm
        · refine (Course.ends_merge (fun x y => fair y x) _ _ _).bind ?_
          intro ⟨mirrored, patience⟩ perm
          refine perm_framed front count ((List.reverse_perm _).trans ?_)
          refine perm.trans (List.perm_append_comm.trans ?_)
          exact (List.reverse_perm _).append (List.reverse_perm _)

/-! ### Stacking up runs -/

/-- Everything in the runs that wait. -/
def waiting (pending : List (Pending α)) : List α := pending.flatMap Pending.run

private theorem ends_collapse (fair : Fair fails less) (depth : Nat) (pending : List (Pending α)) :
    ∀ patience top, Ends fails (fun r => (r.1 ++ waiting r.2.1).Perm (top ++ waiting pending))
      (collapse less depth patience top pending) := by
  induction pending with
  | nil => exact fun _ _ => .refl _
  | cons below pending ih =>
    intro patience top
    unfold collapse
    split
    · apply (ends_mergeRuns fair _ _ _).bind
      rintro ⟨run, patience⟩ perm
      refine (ih _ _).imp fun _ perm' => perm'.trans ((perm.append_right _).trans ?_)
      change ((below.run ++ top) ++ waiting pending).Perm (top ++ (below.run ++ waiting pending))
      rw [← List.append_assoc]
      exact List.perm_append_comm.append_right _
    · exact .refl _

private theorem ends_push (fair : Fair fails less) (whole patience start : Nat) (run : List α)
    (pending : List (Pending α)) :
    Ends fails (fun r => (waiting r.1).Perm (run ++ waiting pending))
      (push less whole patience start run pending) := by
  unfold push
  split
  · exact .refl _
  · exact (ends_collapse fair _ _ _ _).bind fun ⟨merged, rest, patience⟩ perm => perm.append_left run

/-- With a step for each element and one more, nothing is left over. -/
theorem ends_stack (fair : Fair fails less) (whole fuel : Nat) :
    ∀ patience start pending (xs : List α), xs.length < fuel →
      Ends fails (fun r => (waiting r.1).Perm (waiting pending ++ xs))
        (stack less whole fuel patience start pending xs) := by
  induction fuel with
  | zero =>
    intro _ _ _ _ enough
    omega
  | succ fuel ih =>
    intro patience start pending xs enough
    cases xs with
    | nil => exact .of_eq (List.append_nil _).symm
    | cons x xs =>
      apply (ends_firstRun fair (x :: xs)).bind
      rintro ⟨natural, others⟩ ⟨perm, filled⟩
      have shorter : others.length < xs.length + 1 := by
        have sizes : natural.length + others.length = xs.length + 1 := by simpa using perm.length_eq
        have positive : 0 < natural.length :=
          List.length_pos_of_ne_nil (filled (List.cons_ne_nil x xs))
        omega
      dsimp only
      generalize leastRun false whole - natural.length = missing
      apply (ends_insertAll fair _ _).bind
      intro run inserted
      apply (ends_push fair _ _ _ _ _).bind
      rintro ⟨pushed, patience⟩ put
      have remaining : (others.drop missing).length < fuel := by
        rw [List.length_drop]
        rw [List.length_cons] at enough
        omega
      refine (ih _ _ _ _ remaining).imp fun _ perm' => perm'.trans ((put.append_right _).trans ?_)
      -- The run, the runs that wait and the rest: what was taken for the run came from the rest.
      have parts : (run ++ others.drop missing).Perm (x :: xs) := by
        refine (inserted.append_right _).trans ?_
        rw [List.append_assoc, List.take_append_drop]
        exact perm
      refine (List.perm_append_comm.append_right _).trans ?_
      rw [List.append_assoc]
      exact parts.append_left _

/-- With a step for each run, all of them are united. -/
theorem ends_unite (fair : Fair fails less) (fuel : Nat) :
    ∀ patience (pending : List (Pending α)), pending.length < fuel →
      Ends fails (fun ys => ys.Perm (waiting pending)) (unite less fuel patience pending) := by
  induction fuel with
  | zero =>
    intro _ _ enough
    omega
  | succ fuel ih =>
    intro patience pending enough
    match pending with
    | [] => exact .refl _
    | [only] => exact .of_eq (List.append_nil _).symm
    | [top, below] =>
      apply (ends_mergeRuns fair _ _ _).bind
      rintro ⟨run, patience⟩ merged
      have fewer : [Pending.mk run 0].length < fuel := by
        simp only [List.length_cons] at enough ⊢
        omega
      refine (ih _ _ fewer).imp fun ys perm => perm.trans ?_
      simpa [waiting] using merged.trans List.perm_append_comm
    | top :: below :: third :: others =>
      unfold unite
      dsimp only
      split
      · apply (ends_mergeRuns fair _ _ _).bind
        rintro ⟨run, patience⟩ merged
        have fewer : (top :: Pending.mk run 0 :: others).length < fuel := by
          simp only [List.length_cons] at enough ⊢
          omega
        refine (ih _ _ fewer).imp fun ys perm => perm.trans ?_
        have perm := merged.trans List.perm_append_comm
        simpa [waiting] using (perm.append_right (waiting others)).append_left top.run
      · apply (ends_mergeRuns fair _ _ _).bind
        rintro ⟨run, patience⟩ merged
        have fewer : (Pending.mk run 0 :: third :: others).length < fuel := by
          simp only [List.length_cons] at enough ⊢
          omega
        refine (ih _ _ fewer).imp fun ys perm => perm.trans ?_
        have perm := merged.trans List.perm_append_comm
        simpa [waiting] using perm.append_right (third.run ++ waiting others)

/-- A list that can be sorted holds the same elements afterwards. -/
theorem ends_byRuns (fair : Fair fails less) (xs : List α) :
    Ends fails (fun ys => ys.Perm xs) (byRuns less xs) := by
  refine (ends_stack fair _ _ _ _ [] xs (Nat.lt_succ_self _)).bind ?_
  intro ⟨pending, patience⟩ stacked
  exact (ends_unite fair _ _ pending (Nat.lt_succ_self _)).imp fun ys perm => perm.trans stacked

end Merging

end MemoAssist.Sorting

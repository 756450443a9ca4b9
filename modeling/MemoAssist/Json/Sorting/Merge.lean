import MemoAssist.Json.Sorting

/-! Merging two neighbouring runs. Elements are taken singly until one run has won several times in
a row, and in whole strides from then on; the length of a stride is found by doubling and halving.
A merge works from the front or, in mirror image, from the back. -/
namespace MemoAssist.Sorting

variable {α : Type}

/-- Double the distance as long as the elements met pass: the last one that did, and where to stop. -/
def reach (passes : α → Except Fault Bool) (xs : List α) : (steps : Nat) → (near far : Nat) →
    Except Fault (Nat × Nat)
  | 0, near, far => .ok (near, far)
  | steps + 1, near, far =>
    match xs[far]? with
    | none => .ok (near, xs.length)
    | some x => do
      if ← passes x then reach passes xs steps far (2 * far + 1) else return (near, far)

/-- The first place between `low` and `high` whose element does not pass. Of two middles the later
one is tried, which is the earlier one if `back` tells that `xs` is in mirror image. -/
def narrow (passes : α → Except Fault Bool) (back : Bool) (xs : List α) : (steps : Nat) →
    (low high : Nat) → Except Fault Nat
  | 0, low, _ => .ok low
  | steps + 1, low, high =>
    if low < high then
      let gap := high - low
      let middle := low + (if back then gap - 1 else gap) / 2
      match xs[middle]? with
      | none => .ok low
      | some x => do
        if ← passes x then narrow passes back xs steps (middle + 1) high
        else narrow passes back xs steps low middle
    else .ok low

/-- How many elements at the front pass, where those that pass come first. -/
def stride (passes : α → Except Fault Bool) (back : Bool) : List α → Except Fault Nat
  | [] => .ok 0
  | x :: rest => do
    if ← passes x then
      let xs := x :: rest
      let (near, far) ← reach passes xs xs.length 0 1
      narrow passes back xs xs.length (near + 1) far
    else return 0

/-- From the back the runs are in mirror image and change places, and so do the two sides of the
comparison. -/
structure Course (α : Type) where
  less : α → α → Except Fault Bool
  back : Bool

/-- A merge with what is done, the last element first, and what is left of either run. -/
structure Progress (α : Type) where
  done : List α
  left : List α
  right : List α

namespace Progress

/-- What remains follows in order. -/
def close (p : Progress α) : List α := p.done.reverse ++ p.left ++ p.right

/-- The last element of the left run goes behind all that remains of the right one. -/
def closeSwapped (p : Progress α) : List α := p.done.reverse ++ p.right ++ p.left

def takeLeft (n : Nat) (p : Progress α) : Progress α :=
  { p with done := (p.left.take n).reverse ++ p.done, left := p.left.drop n }

def takeRight (n : Nat) (p : Progress α) : Progress α :=
  { p with done := (p.right.take n).reverse ++ p.done, right := p.right.drop n }

/-- The end of a merge, once a run is used up or the left one has a single element left. -/
def ended? (p : Progress α) : Option (List α) :=
  if p.right.isEmpty ∨ p.left.isEmpty then some p.close
  else if p.left.length = 1 then some p.closeSwapped
  else none

end Progress

/-- A stride either ends the merge or has a length and leads on. -/
inductive Stridden (α : Type) where
  | ended (merged : List α)
  | on (length : Nat) (p : Progress α)

namespace Course

/-- Take a stride of the left run, and the element of the right run that stopped it. -/
def strideLeft (c : Course α) (p : Progress α) : Except Fault (Stridden α) :=
  match p.right with
  | [] => .ok (.ended p.close)
  | y :: _ => do
    let n ← stride (fun x => return !(← c.less y x)) c.back p.left
    let p := p.takeLeft n
    match p.ended? with
    | some merged => return .ended merged
    | none =>
      let p := p.takeRight 1
      return if p.right.isEmpty then .ended p.close else .on n p

/-- Take a stride of the right run, and the element of the left run that stopped it. -/
def strideRight (c : Course α) (p : Progress α) : Except Fault (Stridden α) :=
  match p.left with
  | [] => .ok (.ended p.close)
  | x :: _ => do
    let n ← stride (fun y => c.less y x) c.back p.right
    let p := p.takeRight n
    if p.right.isEmpty then return .ended p.close
    let p := p.takeLeft 1
    match p.ended? with
    | some merged => return .ended merged
    | none => return .on n p

/-- Strides of this length are worth going on with. -/
def worthwhile : Nat := 7

mutual

/-- Take single elements until a run has won `patience` times in a row. The patience left at the end
is returned with the merged list. -/
def bySingles (c : Course α) : (fuel : Nat) → (patience leftWins rightWins : Nat) →
    Progress α → Except Fault (List α × Nat)
  | 0, patience, _, _, p => .ok (p.close, patience)
  | fuel + 1, patience, leftWins, rightWins, p =>
    match p.left, p.right with
    | x :: _, y :: _ => do
      let rightWon ← c.less y x
      let p := if rightWon then p.takeRight 1 else p.takeLeft 1
      let leftWins := if rightWon then 0 else leftWins + 1
      let rightWins := if rightWon then rightWins + 1 else 0
      match p.ended? with
      | some merged => return (merged, patience)
      | none =>
        if patience ≤ max leftWins rightWins then byStrides c fuel patience p
        else bySingles c fuel patience leftWins rightWins p
    | _, _ => .ok (p.close, patience)

/-- Take strides by turns as long as one of the two is worthwhile. -/
def byStrides (c : Course α) : (fuel : Nat) → (patience : Nat) → Progress α →
    Except Fault (List α × Nat)
  | 0, patience, p => .ok (p.close, patience)
  | fuel + 1, patience, p => do
    match ← if c.back then c.strideRight p else c.strideLeft p with
    | .ended merged => return (merged, patience)
    | .on first p =>
      match ← if c.back then c.strideLeft p else c.strideRight p with
      | .ended merged => return (merged, patience)
      | .on second p =>
        if worthwhile ≤ max first second then byStrides c fuel (max 1 (patience - 1)) p
        else bySingles c fuel (patience + 1) 0 0 p

end

/-- Merge two runs of which the right one is known to come first, and the left one last. -/
def merge (c : Course α) (patience : Nat) (left right : List α) : Except Fault (List α × Nat) :=
  let p := Progress.takeRight 1 ⟨[], left, right⟩
  match p.ended? with
  | some merged => .ok (merged, patience)
  | none => bySingles c (2 * (left.length + right.length)) patience 0 0 p

end Course

/-- Merge two neighbouring runs. What is in place at either end is left out, and the shorter of the
two remaining parts decides the direction. -/
def mergeRuns (less : α → α → Except Fault Bool) (patience : Nat) (left right : List α) :
    Except Fault (List α × Nat) :=
  match right with
  | [] => .ok (left, patience)
  | y :: _ => do
    let front ← stride (fun x => return !(← less y x)) false left
    let inner := left.drop front
    match inner.getLast? with
    | none => return (left ++ right, patience)
    | some last =>
      let behind ← stride (fun x => return !(← less x last)) true right.reverse
      let count := right.length - behind
      let outer := right.take count
      if count = 0 then return (left ++ right, patience)
      let (merged, patience) ←
        if inner.length ≤ count then Course.merge ⟨less, false⟩ patience inner outer
        else do
          let (mirrored, patience) ←
            Course.merge ⟨fun x y => less y x, true⟩ patience outer.reverse inner.reverse
          pure (mirrored.reverse, patience)
      return (left.take front ++ merged ++ right.drop count, patience)

end MemoAssist.Sorting

import MemoAssist.Fault

/-! A stable sort whose comparison may fail: what is in order at the start is kept as a run, and the
rest is inserted into it by halving. -/
namespace MemoAssist.Sorting

variable {α : Type} (less : α → α → Except Fault Bool)

/-- The longest stretch at the front in which each element is, or is not, less than the one before
it; the stretch is returned with the last element first. -/
def stretch (falling : Bool) (last : α) : (behind : List α) → List α →
    Except Fault (List α × List α)
  | behind, [] => .ok (last :: behind, [])
  | behind, x :: rest => do
    if (← less x last) = falling then stretch falling x (last :: behind) rest
    else return (last :: behind, x :: rest)

/-- The run at the front in rising order, and the rest. A falling run is turned round. -/
def firstRun : List α → Except Fault (List α × List α)
  | x :: y :: rest => do
    let falling ← less y x
    let (backwards, others) ← stretch less falling y [x] rest
    return (if falling then backwards else backwards.reverse, others)
  | short => .ok (short, [])

/-- Where `x` goes between the places `low` and `high` of a sorted list: behind all that is not
greater. -/
def place (x : α) (sorted : List α) : (steps : Nat) → (low high : Nat) → Except Fault Nat
  | 0, low, _ => .ok low
  | steps + 1, low, high =>
    if low < high then
      let middle := low + (high - low) / 2
      match sorted[middle]? with
      | none => .ok low
      | some m => do
        if ← less x m then place x sorted steps low middle
        else place x sorted steps (middle + 1) high
    else .ok low

def insertAll (sorted : List α) : List α → Except Fault (List α)
  | [] => .ok sorted
  | x :: rest => do
    let i ← place less x sorted (sorted.length + 1) 0 sorted.length
    insertAll (sorted.take i ++ x :: sorted.drop i) rest

def sort (xs : List α) : Except Fault (List α) := do
  let (run, rest) ← firstRun less xs
  insertAll less run rest

end MemoAssist.Sorting

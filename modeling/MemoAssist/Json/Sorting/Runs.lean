import MemoAssist.Json.Sorting.Merge

/-! A stable sort by merging runs. It also settles the order of elements whose comparison is none:
there the answer depends on which pairs are compared, and so on the runs and on when they are
merged. -/
namespace MemoAssist.Sorting

variable {α : Type} (less : α → α → Except Fault Bool)

/-- Runs are made at least this long: half of the length, again and again, until it is below 64;
rounded up if anything was lost on the way. -/
def leastRun (odd : Bool) (n : Nat) : Nat :=
  if n < 64 then n + odd.toNat else leastRun (odd || n % 2 = 1) (n / 2)
termination_by n

/-- A run that waits to be merged, with the depth of the boundary behind it. -/
structure Pending (α : Type) where
  run : List α
  depth : Nat := 0

/-- The depth at which two points fall into different halves when `whole` is halved again and
again. The points are given by their doubles. -/
def partingDepth (whole : Nat) : (fuel : Nat) → (a b : Nat) → Nat
  | 0, _, _ => 0
  | fuel + 1, a, b =>
    if whole ≤ a then 1 + partingDepth whole fuel (2 * (a - whole)) (2 * (b - whole))
    else if whole ≤ b then 1
    else 1 + partingDepth whole fuel (2 * a) (2 * b)

/-- The depth of the boundary between two runs, the first of which begins at `start`: where their
middles part. -/
def boundaryDepth (whole start first second : Nat) : Nat :=
  let a := 2 * start + first
  partingDepth whole (whole + 1) a (a + first + second)

/-- Merge the topmost run with those below it as long as the boundary between is deeper than a new
one. -/
def collapse (depth : Nat) : (patience : Nat) → (top : List α) → List (Pending α) →
    Except Fault (List α × List (Pending α) × Nat)
  | patience, top, [] => .ok (top, [], patience)
  | patience, top, below :: rest =>
    if depth < below.depth then do
      let (run, patience) ← mergeRuns less patience below.run top
      collapse depth patience run rest
    else .ok (top, below :: rest, patience)

/-- Put a new run on top of those that wait; the depth of the boundary between decides which of
them are merged before. -/
def push (whole : Nat) (patience start : Nat) (run : List α) :
    List (Pending α) → Except Fault (List (Pending α) × Nat)
  | [] => .ok ([{ run }], patience)
  | top :: rest => do
    let depth := boundaryDepth whole (start - top.run.length) top.run.length run.length
    let (merged, rest, patience) ← collapse less depth patience top.run rest
    return ({ run } :: { run := merged, depth } :: rest, patience)

/-- The runs of a list, stacked up and merged on the way. -/
def stack (whole : Nat) : (fuel : Nat) → (patience start : Nat) → List (Pending α) → List α →
    Except Fault (List (Pending α) × Nat)
  | 0, patience, _, pending, _ => .ok (pending, patience)
  | _ + 1, patience, _, pending, [] => .ok (pending, patience)
  | fuel + 1, patience, start, pending, xs => do
    let (natural, rest) ← firstRun less xs
    let missing := leastRun false whole - natural.length
    let run ← insertAll less natural (rest.take missing)
    let (pending, patience) ← push less whole patience start run pending
    stack whole fuel patience (start + run.length) pending (rest.drop missing)

/-- Merge all runs that wait: the topmost two, or the two below the topmost if the third is shorter
than the first. -/
def unite : (fuel : Nat) → (patience : Nat) → List (Pending α) → Except Fault (List α)
  | 0, _, _ => .ok []
  | _ + 1, _, [] => .ok []
  | _ + 1, _, [only] => .ok only.run
  | fuel + 1, patience, top :: below :: rest => do
    match rest with
    | third :: others =>
      if third.run.length < top.run.length then
        let (run, patience) ← mergeRuns less patience third.run below.run
        unite fuel patience (top :: { run } :: others)
      else
        let (run, patience) ← mergeRuns less patience below.run top.run
        unite fuel patience ({ run } :: third :: others)
    | [] =>
      let (run, patience) ← mergeRuns less patience below.run top.run
      unite fuel patience [{ run }]

/-- Sort by merging runs. -/
def byRuns (xs : List α) : Except Fault (List α) := do
  let (pending, patience) ← stack less xs.length (xs.length + 1) Course.worthwhile 0 [] xs
  unite less (pending.length + 1) patience pending

end MemoAssist.Sorting

/-! A gate that lets in many readers or one writer. Everyone whose turn has not come sleeps; a
release that may open the gate wakes all sleepers, and each then tries again. A waiting writer keeps
new readers out. -/
namespace MemoAssist

inductive Side where
  | read
  | write
deriving DecidableEq, Repr

/-- Someone who waits for a side of the gate. -/
structure Waiter (α : Type) where
  actor : α
  side : Side
deriving DecidableEq, Repr

/-- The counters of the gate and all who wait at it. -/
structure Gate (α : Type) where
  readers : Int := 0
  writer : Bool := false
  writersWaiting : Int := 0
  /-- In the order in which they fell asleep. -/
  asleep : List (Waiter α) := []
  /-- Woken, and due to try again in this order. -/
  awake : List (Waiter α) := []
deriving DecidableEq, Repr

namespace Gate

variable {α : Type}

/-- May this side enter now? -/
def admits (g : Gate α) : Side → Bool
  | .read => !g.writer && g.writersWaiting = 0
  | .write => !g.writer && g.readers = 0

/-- A writer who enters waits no longer. -/
def enter (side : Side) (g : Gate α) : Gate α :=
  match side with
  | .read => { g with readers := g.readers + 1 }
  | .write => { g with writersWaiting := g.writersWaiting - 1, writer := true }

/-- Enter if that is possible, and else fall asleep: did the waiter enter? -/
def attempt (w : Waiter α) (g : Gate α) : Bool × Gate α :=
  if g.admits w.side then (true, g.enter w.side) else (false, { g with asleep := g.asleep ++ [w] })

/-- Come to the gate. A writer counts as waiting from here until it enters. -/
def arrive (w : Waiter α) (g : Gate α) : Bool × Gate α :=
  match w.side with
  | .read => g.attempt w
  | .write => attempt w { g with writersWaiting := g.writersWaiting + 1 }

def wakeAll (g : Gate α) : Gate α := { g with asleep := [], awake := g.awake ++ g.asleep }

/-- Only the last reader to leave can open the gate for others. -/
def releaseRead (g : Gate α) : Gate α :=
  let left := { g with readers := g.readers - 1 }
  if left.readers = 0 then left.wakeAll else left

def releaseWrite (g : Gate α) : Gate α := wakeAll { g with writer := false }

/-- Let the first of those who were woken try again. -/
def resume (g : Gate α) : Option (Waiter α × Bool × Gate α) :=
  match g.awake with
  | [] => none
  | w :: rest => some (w, attempt w { g with awake := rest })

/-- Let `turns` of those who were woken try again, one after the other: who entered? -/
def settleFor : (turns : Nat) → Gate α → List α × Gate α
  | 0, g => ([], g)
  | turns + 1, g =>
    match g.resume with
    | none => ([], g)
    | some (w, entered, g) =>
      let (others, g) := settleFor turns g
      (if entered then w.actor :: others else others, g)

/-- Let all who were woken try again. Nobody is woken by that. -/
def settle (g : Gate α) : List α × Gate α := settleFor g.awake.length g

end Gate

end MemoAssist

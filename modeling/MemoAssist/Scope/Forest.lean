import MemoAssist.Clock.Scale
import MemoAssist.Fault

/-! Scopes of work. A scope may have a deadline and may be cancelled; a scope opened inside another
ends no later than it and is cancelled with it. -/
namespace MemoAssist

variable {τ : Type} [TimeScale τ]

abbrev ScopeId := Nat

structure Scope (τ : Type) where
  parent : Option ScopeId
  deadline : Option τ
  cancelled : Bool

/-- All scopes ever opened, each under its number. A parent is older than its children. -/
abbrev Forest (τ : Type) := List (Scope τ)

namespace Forest

def isCancelled (forest : Forest τ) (id : ScopeId) : Bool :=
  (forest[id]?).elim false Scope.cancelled

def deadline (forest : Forest τ) (id : ScopeId) : Option τ :=
  (forest[id]?).bind Scope.deadline

/-- The earlier of two deadlines, either of which may be absent. -/
def tighter : Option τ → Option τ → Option τ
  | own, none => own
  | none, some limit => some limit
  | some own, some limit => some (TimeScale.earlier own limit)

/-- Open a scope at a reading of the clock. -/
def insert (now : τ) (timeout : Option τ) (parent : Option ScopeId) (forest : Forest τ) :
    ScopeId × Forest τ :=
  let scope : Scope τ :=
    { parent
      deadline := tighter (timeout.map (now + ·)) (parent.bind forest.deadline)
      cancelled := parent.elim false forest.isCancelled }
  (forest.length, forest ++ [scope])

/-- Cancel every scope from `position` on that is marked itself or lies under a marked one. Going
from old to new meets each parent before its children. -/
def cancelUnder (position : Nat) (marked : List ScopeId) : Forest τ → Forest τ
  | [] => []
  | scope :: rest =>
    if marked.contains position || scope.parent.elim false marked.contains then
      { scope with cancelled := true } :: cancelUnder (position + 1) (position :: marked) rest
    else scope :: cancelUnder (position + 1) marked rest

/-- Cancel a scope and everything under it. The program calls itself for each scope inside another,
so that scopes nested deeper than the interpreter lets calls be nested are left out here. -/
def cancel (id : ScopeId) (forest : Forest τ) : Forest τ := cancelUnder 0 [id] forest

/-- Let go of a scope that nobody can cancel any more: those opened inside it keep their deadlines
and stand alone. -/
def release (id : ScopeId) (forest : Forest τ) : Forest τ :=
  forest.map fun scope => if scope.parent = some id then { scope with parent := none } else scope

/-- The time left until the deadline, never less than none. -/
def remaining (now : τ) (id : ScopeId) (forest : Forest τ) : Option τ :=
  (forest.deadline id).map fun d => TimeScale.later TimeScale.zero (d - now)

def isExpired (now : τ) (id : ScopeId) (forest : Forest τ) : Bool :=
  match forest.deadline id with
  | none => false
  | some d => d ≤ now

/-- Cancellation is reported before expiry. -/
def check (now : τ) (id : ScopeId) (forest : Forest τ) : Except Fault Unit :=
  if forest.isCancelled id then .error (.of .cancelled)
  else if forest.isExpired now id then .error (.of .deadlineExceeded)
  else .ok ()

end Forest

end MemoAssist

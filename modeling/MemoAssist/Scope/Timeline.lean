import MemoAssist.Act
import MemoAssist.Scope.Forest

/-! The clock together with the scopes it limits. Time moves only when something waits; on the way
it passes the cancellations that were set for a later moment. -/
namespace MemoAssist

variable {τ : Type} [TimeScale τ]

/-- A cancellation set for a moment. -/
structure Alarm (τ : Type) where
  due : τ
  scope : ScopeId

structure Timeline (τ : Type) where
  now : τ
  scopes : Forest τ
  /-- In the order in which they are due; equal ones in the order in which they were set. -/
  alarms : List (Alarm τ)

namespace Timeline

def start : Timeline τ := ⟨TimeScale.zero, [], []⟩

def openScope (timeout : Option τ) (parent : Option ScopeId) (t : Timeline τ) :
    ScopeId × Timeline τ :=
  let (id, scopes) := t.scopes.insert t.now timeout parent
  (id, { t with scopes })

def cancel (id : ScopeId) (t : Timeline τ) : Timeline τ :=
  { t with scopes := t.scopes.cancel id }

/-- Let go of a scope, unless it is still to be cancelled at a later moment. -/
def release (id : ScopeId) (t : Timeline τ) : Timeline τ :=
  if t.alarms.any fun alarm => alarm.scope = id then t
  else { t with scopes := t.scopes.release id }

def isCancelled (t : Timeline τ) (id : ScopeId) : Bool := t.scopes.isCancelled id

def remaining (t : Timeline τ) (id : ScopeId) : Option τ := t.scopes.remaining t.now id

def isExpired (t : Timeline τ) (id : ScopeId) : Bool := t.scopes.isExpired t.now id

def check (t : Timeline τ) (id : ScopeId) : Except Fault Unit := t.scopes.check t.now id

def insertAlarm (alarm : Alarm τ) : List (Alarm τ) → List (Alarm τ)
  | [] => [alarm]
  | other :: rest =>
    if alarm.due < other.due then alarm :: other :: rest else other :: insertAlarm alarm rest

/-- Cancel a scope once a span has passed. -/
def cancelAfter (id : ScopeId) (span : τ) (t : Timeline τ) : Timeline τ :=
  { t with alarms := insertAlarm ⟨t.now + span, id⟩ t.alarms }

/-- Ring the alarms due by `target`, each at its own moment, and then stand at `target`. If the
watched scope is cancelled on the way, time stops there. -/
def passing (target : τ) (watched : Option ScopeId) : List (Alarm τ) → Timeline τ → Bool × Timeline τ
  | [], t => (false, { t with now := target, alarms := [] })
  | alarm :: rest, t =>
    if alarm.due ≤ target then
      let rung := cancel alarm.scope
        { t with now := TimeScale.later t.now alarm.due, alarms := rest }
      if watched.elim false rung.isCancelled then (true, rung)
      else passing target watched rest rung
    else (false, { t with now := target, alarms := alarm :: rest })

/-- Let a span of time pass; a negative one is none at all. -/
def advance (span : τ) (t : Timeline τ) : Timeline τ :=
  if span < TimeScale.zero then t else (passing (t.now + span) none t.alarms t).2

/-- Wait for the cancellation of a scope, but no longer than a span: did it come? -/
def awaitCancel (id : ScopeId) (span : τ) (t : Timeline τ) : Bool × Timeline τ :=
  if t.isCancelled id then (true, t)
  else if span < TimeScale.zero then (false, t)
  else passing (t.now + span) (some id) t.alarms t

/-- Wait for a span inside a scope. When less time than that is left, the wait ends with the scope.
Any span can be waited for: that the program fails on waits beyond the longest one of its platform,
of 292 years, is left out. -/
def sleep (id : ScopeId) (span : τ) : Act (Timeline τ) Unit := fun t =>
  let wholeSpan (t : Timeline τ) : Except Fault Unit × Timeline τ :=
    let (came, t) := t.awaitCancel id span
    (if came then .error (.of .cancelled) else .ok (), t)
  match t.remaining id with
  | none => wholeSpan t
  | some left =>
    if left < span then
      let (_, t) := t.awaitCancel id left
      match t.check id with
      | .error f => (.error f, t)
      | .ok () => (.error (.of .deadlineExceeded), t)
    else wholeSpan t

end Timeline

end MemoAssist

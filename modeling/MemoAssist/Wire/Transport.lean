import MemoAssist.Wire.Refusal
import MemoAssist.World

/-! Sending a request, and sending it again after a failure that may pass. The pause before a new
attempt doubles each time and ends with the scope. -/
namespace MemoAssist

variable {τ : Type} [TimeScale τ]

structure Transport (τ : Type) where
  timeout : τ
  maxRetries : Int
  /-- The pause before the second attempt. -/
  pause : τ
  /-- How many pauses there can be before the next is out of range, if there is an end. -/
  pauses : Option Nat

namespace Transport

/-- Zero stands for the usual timeout and the usual number of retries. -/
def configure (timeout : τ) (maxRetries : Int) (pause : τ) : Transport τ :=
  let isZero := ¬ timeout < TimeScale.zero ∧ ¬ TimeScale.zero < timeout
  { timeout := if isZero then TimeScale.ofInt 30 else timeout
    maxRetries := if maxRetries = 0 then 3 else maxRetries
    pause
    pauses := TimeScale.powersOfTwo τ }

def usualPause : τ := TimeScale.ofInt 1

/-- One attempt may take the configured time, but no longer than the scope has left. -/
def attemptTimeout (t : Transport τ) (left : Option τ) : τ :=
  match left with
  | none => t.timeout
  | some left => TimeScale.earlier t.timeout left

/-- The pause after `made` attempts: the first pause, doubled for every further one. -/
def pauseAfter (t : Transport τ) (made : Nat) : τ := TimeScale.doubled t.pause (made - 1)

/-- What follows from an outcome. -/
inductive Verdict where
  | success (body : Text.Bytes)
  | failure (fault : Fault)
  /-- Worth another attempt, if one is left. -/
  | again (fault : Fault)

def verdict : Outcome → Verdict
  | .answer status body =>
    if 200 ≤ status ∧ status < 300 then .success body
    else
      match Refusal.read status body with
      | .error f => .failure f
      | .ok f => if Refusal.isFinal status then .failure f else .again f
  | .timedOut reason => .again ⟨.unavailable, "request timed out: " ++ reason⟩
  | .broken reason => .again ⟨.unavailable, "request failed: " ++ reason⟩
  | .failed f => .failure f

/-- Can the pause be written as a number of the clock? Whether it can be waited for is not asked. -/
def isPauseInRange (t : Transport τ) (made : Nat) : Bool := t.pauses.all (made ≤ ·)

/-- The wait before an attempt that is not the first. -/
def pauseBefore (t : Transport τ) (scope : ScopeId) (attempt : Sent τ) (made : Nat) (last : Fault) :
    Act (World τ) Unit :=
  if made = 0 then pure ()
  else if !t.isPauseInRange made then Act.fail (.of .outOfRange)
  else do
    World.report (.retrying attempt.method attempt.url made (t.pauseAfter made) last.message)
    World.sleep scope (t.pauseAfter made)

/-- After a timeout the scope may be over, which is then what is reported. -/
def checkAfter (scope : ScopeId) : Outcome → Act (World τ) Unit
  | .timedOut _ => World.check scope
  | _ => pure ()

/-- Make up to `left` attempts. `made` were made before, and `last` is what the last came to. -/
def attempts (t : Transport τ) (scope : ScopeId) (attempt : Sent τ) :
    (left : Nat) → (made : Nat) → (last : Fault) → Act (World τ) Text.Bytes
  | 0, _, last => do
    World.report (.gaveUp attempt.method attempt.url (t.maxRetries + 1) last.message)
    Act.fail last
  | left + 1, made, last => do
    t.pauseBefore scope attempt made last
    World.check scope
    let remaining ← World.remaining scope
    let outcome ← World.send { attempt with timeout := t.attemptTimeout remaining }
    checkAfter scope outcome
    match verdict outcome with
    | .success body => pure body
    | .failure f => Act.fail f
    | .again f => attempts t scope attempt left (made + 1) f

/-- Refuses a payload that JSON cannot write. -/
def unmarshalled : Fault :=
  ⟨.modelWork, "failed to marshal request body: " ++ Fault.unspoken⟩

/-- The text of a payload, which a request without one does not have. -/
def bodyText : Option Payload → Except Fault (Option String)
  | none => .ok none
  | some (.value v) => if v.hasLongNumber then .error unmarshalled else .ok (some v.write)
  | some .unwritable => .error unmarshalled

/-- The body of the first reply that is a success. Without any attempt there is no failure to
report, which is a failure of its own. -/
def request (t : Transport τ) (scope : ScopeId) (ask : Ask) : Act (World τ) Text.Bytes := do
  let body ← Act.ofExcept (bodyText ask.payload)
  let headers := Headers.setAll [("Content-Type", "application/json")] ask.headers
  let sent : Sent τ := { method := ask.method, url := ask.url, headers, body, timeout := t.timeout }
  t.attempts scope sent (t.maxRetries + 1).toNat 0 (.of .illTyped)

end Transport

end MemoAssist

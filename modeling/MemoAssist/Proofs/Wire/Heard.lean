import MemoAssist.Proofs.Act
import MemoAssist.Proofs.Ending
import MemoAssist.Wire.Transport

namespace MemoAssist

variable {τ : Type}

/-- The body that comes with an outcome. -/
def Outcome.body? : Outcome → Option Text.Bytes
  | .answer _ body => some body
  | _ => none

namespace World

/-- From one world to another one request is made for each of these bodies, which is in the reply to
it. -/
structure Heard (before : World τ) (bodies : List Text.Bytes) (after : World τ) : Prop where
  client : after.client = before.client
  sent : after.sent.length = before.sent.length + bodies.length
  replies : ∀ made body, bodies[made]? = some body →
    (before.client (before.sent.length + made)).outcome.body? = some body

/-- Whatever is sent from here on is answered by a success. -/
def Welcoming (w : World τ) : Prop :=
  ∀ made, w.sent.length ≤ made → ∃ status body,
    (w.client made).outcome = .answer status body ∧ 200 ≤ status ∧ status < 300

variable {before between after w : World τ} {body : Text.Bytes} {bodies : List Text.Bytes}

theorem heard_nothing : Heard w [] w := ⟨rfl, rfl, nofun⟩

theorem Heard.cons (first : Heard before [body] between) (later : Heard between bodies after) :
    Heard before (body :: bodies) after where
  client := later.client.trans first.client
  sent := by
    rw [later.sent, first.sent, List.length_singleton, List.length_cons]
    omega
  replies made other found := by
    cases made with
    | zero => exact first.replies 0 other found
    | succ made =>
      have reply := later.replies made other found
      rw [first.client, first.sent, List.length_singleton] at reply
      rw [← reply]
      congr 3
      omega

theorem Welcoming.heard (welcoming : before.Welcoming) (heard : Heard before bodies after) :
    after.Welcoming := by
  intro made later
  rw [heard.sent] at later
  rw [heard.client]
  exact welcoming made (by omega)

variable [TimeScale τ]

/-- The first attempt at a request can be made: its scope is not over and what it carries can be
written. -/
structure Sendable (scope : ScopeId) (w : World τ) (ask : Ask) : Prop where
  live : w.time.check scope = .ok ()
  written : ∃ text, Transport.bodyText ask.payload = .ok text

/-- A scope that is over is a failure of language-model work. -/
theorem limits_check (scope : ScopeId) :
    Limits (fun f => f.isA .modelWork = true) (w.time.check scope) := by
  unfold Timeline.check Forest.check
  split
  · rfl
  · split
    · rfl
    · trivial

end World

namespace Transport

open World

variable [TimeScale τ] {t : Transport τ} {scope : ScopeId} {w : World τ}

private theorem limits_bodyText (payload : Option Payload) :
    Limits (fun f => f.isA .modelWork = true) (bodyText payload) := by
  unfold bodyText
  split
  · trivial
  · split
    · rfl
    · trivial
  · rfl

private theorem pauseBefore_first (attempt : Sent τ) (last : Fault) :
    t.pauseBefore scope attempt 0 last w = (.ok (), w) := rfl

/-- The first attempt is the last if it is answered by a success. -/
theorem attempts_welcomed (welcoming : w.Welcoming) (live : w.time.check scope = .ok ())
    (attempt : Sent τ) (left : Nat) (last : Fault) :
    ∃ body after, t.attempts scope attempt (left + 1) 0 last w = (.ok body, after) ∧
      Heard w [body] after := by
  obtain ⟨status, body, replied, low, high⟩ := welcoming w.sent.length (Nat.le_refl _)
  let limited := { attempt with timeout := t.attemptTimeout (w.time.remaining scope) }
  let after := (World.send limited w).2
  have checked : World.check scope w = (.ok (), w) := congrArg (·, w) live
  have remaining : World.remaining scope w = (.ok (w.time.remaining scope), w) := rfl
  have answered : World.send limited w = (.ok (.answer status body), after) :=
    congrArg (fun outcome => (Except.ok outcome, after)) replied
  have stillLive : checkAfter scope (.answer status body) after = (.ok (), after) := rfl
  refine ⟨body, after, ?_, rfl, List.length_append, ?_⟩
  · rw [attempts, Act.bind_ok (pauseBefore_first attempt last), Act.bind_ok checked,
      Act.bind_ok remaining, Act.bind_ok answered, Act.bind_ok stillLive, verdict,
      if_pos ⟨low, high⟩]
    rfl
  · intro made other found
    cases made with
    | zero =>
      cases found
      exact congrArg Outcome.body? replied
    | succ made => cases found

private theorem attempts_over {f : Fault} (ended : w.time.check scope = .error f) (attempt : Sent τ)
    (left : Nat) (last : Fault) :
    t.attempts scope attempt (left + 1) 0 last w = (.error f, w) := by
  have checked : World.check scope w = (.error f, w) := congrArg (·, w) ended
  rw [attempts, Act.bind_ok (pauseBefore_first attempt last), Act.bind_error checked]

/-- A request that can be sent hears what it comes to. Any other fails in a way of language-model
work. -/
theorem request_welcomed (welcoming : w.Welcoming) (allowed : 0 ≤ t.maxRetries) (scope : ScopeId)
    (ask : Ask) :
    (∃ f, t.request scope ask w = (.error f, w) ∧ f.isA .modelWork = true ∧ ¬ Sendable scope w ask) ∨
      ∃ body after, t.request scope ask w = (.ok body, after) ∧ Heard w [body] after := by
  have writing := limits_bodyText ask.payload
  have checking := limits_check (w := w) scope
  obtain ⟨left, tries⟩ : ∃ left, (t.maxRetries + 1).toNat = left + 1 :=
    ⟨t.maxRetries.toNat, by omega⟩
  rw [request, tries]
  cases written : bodyText ask.payload with
  | error f =>
    rw [written] at writing
    refine .inl ⟨f, rfl, writing, ?_⟩
    intro able
    obtain ⟨text, found⟩ := able.written
    rw [written] at found
    cases found
  | ok text =>
    rw [Act.bind_ok (Act.ofExcept_eq _ _)]
    cases live : w.time.check scope with
    | error f =>
      rw [live] at checking
      refine .inl ⟨f, attempts_over live _ left _, checking, ?_⟩
      intro able
      have found := able.live
      rw [live] at found
      cases found
    | ok ready => exact .inr (attempts_welcomed welcoming live _ left _)

end Transport

end MemoAssist

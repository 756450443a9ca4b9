import MemoAssist.Proofs.Clock.Exact
import MemoAssist.Proofs.Scope.Waiting
import MemoAssist.Wire.Transport

namespace MemoAssist

variable {τ : Type} [TimeScale τ]

namespace Outcome

/-- After a success, a final refusal, one whose body is too deep or a failure of the client itself
nothing is tried again. -/
def isDecisive : Outcome → Bool
  | .answer status body => (200 ≤ status && status < 300) || (status < 500 && status ≠ 429) ||
    Refusal.isTooDeep status body
  | .timedOut _ | .broken _ => false
  | .failed _ => true

/-- What a request comes to that ends with this outcome. -/
def result : Outcome → Except Fault Text.Bytes
  | .answer status body =>
    if 200 ≤ status ∧ status < 300 then .ok body
    else if Refusal.isTooDeep status body then .error (.of .tooDeep)
    else .error (Refusal.fault status body)
  | .timedOut reason => .error ⟨.unavailable, "request timed out: " ++ reason⟩
  | .broken reason => .error ⟨.unavailable, "request failed: " ++ reason⟩
  | .failed f => .error f

/-- The failure to report if no attempt follows. -/
def fault (o : Outcome) : Fault :=
  match o.result with
  | .error f => f
  | .ok _ => .of .illTyped

variable {o : Outcome}

theorem verdict_of_decisive (decisive : o.isDecisive = true) : Transport.verdict o =
    match o.result with
    | .ok body => .success body
    | .error f => .failure f := by
  cases o with
  | answer status body =>
    simp only [Transport.verdict, result]
    by_cases good : 200 ≤ status ∧ status < 300
    · rw [if_pos good, if_pos good]
    · rw [if_neg good, if_neg good, Refusal.read]
      cases deep : Refusal.isTooDeep status body with
      | true => rfl
      | false =>
        -- What is decisive then and no success is a final refusal.
        have final : Refusal.isFinal status = true := by
          rw [isDecisive, deep, Bool.or_false, Bool.or_eq_true] at decisive
          rcases decisive with fine | final
          · exact absurd (by simpa using fine) good
          · exact final
        simp only [Bool.false_eq_true, if_false, if_pos final]
  | timedOut reason => cases decisive
  | broken reason => cases decisive
  | failed f => rfl

theorem result_of_indecisive (undecided : o.isDecisive = false) :
    o.result = .error o.fault ∧ Transport.verdict o = .again o.fault := by
  cases o with
  | answer status body =>
    rw [isDecisive, Bool.or_eq_false_iff, Bool.or_eq_false_iff] at undecided
    obtain ⟨⟨bad, passing⟩, shallow⟩ := undecided
    have bad : ¬ (200 ≤ status ∧ status < 300) := by simpa using bad
    have passing : Refusal.isFinal status = false := passing
    have refused : result (.answer status body) = .error (Refusal.fault status body) := by
      rw [result, if_neg bad, shallow]
      rfl
    refine ⟨by rw [fault, refused], ?_⟩
    rw [fault, refused, Transport.verdict, if_neg bad, Refusal.read, shallow]
    simp only [Bool.false_eq_true, if_false, passing]
  | timedOut reason => exact ⟨rfl, rfl⟩
  | broken reason => exact ⟨rfl, rfl⟩
  | failed f => cases undecided

end Outcome

omit [TimeScale τ] in
/-- Before a pause that is in range all are. -/
theorem Transport.isPauseInRange_of_le {t : Transport τ} {before made : Nat}
    (earlier : before ≤ made) (inRange : t.isPauseInRange made = true) :
    t.isPauseInRange before = true := by
  unfold Transport.isPauseInRange at inRange ⊢
  cases bound : t.pauses with
  | none => rfl
  | some most =>
    rw [bound] at inRange
    exact decide_eq_true (Nat.le_trans earlier (of_decide_eq_true inRange))

omit [TimeScale τ] in
/-- There is no pause to be out of range before the first attempt. -/
theorem Transport.isPauseInRange_zero (t : Transport τ) : t.isPauseInRange 0 = true := by
  unfold Transport.isPauseInRange
  cases t.pauses <;> simp

private theorem World.sleep_eq {w : World τ} {scope : ScopeId} (calm : w.time.Undisturbed scope) (span : τ) :
    World.sleep scope span w = (.ok (), { w with time := w.time.advance span }) := by
  rw [World.sleep, World.onTime, Act.within, calm.sleep]

/-- A request that is ready to be sent, and the world it is made in. -/
structure Series (τ : Type) where
  transport : Transport τ
  ask : Ask
  body : Option String
  world : World τ

namespace Series

section

variable (s : Series τ)

/-- What goes to the client at each attempt. -/
def attempt : Sent τ :=
  { method := s.ask.method
    url := s.ask.url
    headers := Headers.setAll [("Content-Type", "application/json")] s.ask.headers
    body := s.body
    timeout := s.transport.timeout }

/-- The reply to the attempt that is made after `made` others. -/
def reply (made : Nat) : Reply τ := s.world.client (s.world.sent.length + made)

def outcome (made : Nat) : Outcome := (s.reply made).outcome

/-- The failure to report when `made` attempts were made. -/
def last : Nat → Fault
  | 0 => .of .illTyped
  | made + 1 => (s.outcome made).fault

/-- The pause before an attempt that is not the first. -/
def rested (made : Nat) (w : World τ) : World τ :=
  match made with
  | 0 => w
  | before + 1 =>
    let pause := TimeScale.doubled s.transport.pause before
    { w with
      time := w.time.advance pause
      journal := w.journal ++
        [.retrying s.ask.method s.ask.url (before + 1) pause (s.outcome before).fault.message] }

/-- The world once the replies to `made` attempts are known. -/
def known : (made : Nat) → World τ
  | 0 => s.world
  | made + 1 =>
    let w := s.rested made (known made)
    { w with
      time := (s.reply made).delay.elim w.time fun span => w.time.advance span
      sent := w.sent ++ [s.attempt] }

/-- The world in which an attempt is made after `made` others. -/
def ready (made : Nat) : World τ := s.rested made (s.known made)

/-- The world after so many attempts that no other is made. -/
def exhausted (tries : Nat) : World τ :=
  { s.known tries with
    journal := (s.known tries).journal ++
      [.gaveUp s.ask.method s.ask.url (s.transport.maxRetries + 1) (s.last tries).message] }

end

variable {s : Series τ} {scope : ScopeId}

private theorem sent_rested (made : Nat) (w : World τ) : (s.rested made w).sent = w.sent := by
  cases made <;> rfl

private theorem client_rested (made : Nat) (w : World τ) : (s.rested made w).client = w.client := by
  cases made <;> rfl

theorem sent_known (made : Nat) :
    (s.known made).sent = s.world.sent ++ List.replicate made s.attempt := by
  induction made with
  | zero => exact (List.append_nil _).symm
  | succ made ih =>
    change (s.rested made (s.known made)).sent ++ [s.attempt] = _
    rw [sent_rested, ih, List.append_assoc, List.replicate_succ']

theorem client_known (made : Nat) : (s.known made).client = s.world.client := by
  induction made with
  | zero => rfl
  | succ made ih => exact (client_rested made _).trans ih

private theorem undisturbed_rested {w : World τ} (calm : w.time.Undisturbed scope) (made : Nat) :
    (s.rested made w).time.Undisturbed scope := by
  cases made with
  | zero => exact calm
  | succ before => exact (calm.advance _).1

theorem undisturbed_known (calm : s.world.time.Undisturbed scope) (made : Nat) :
    (s.known made).time.Undisturbed scope := by
  induction made with
  | zero => exact calm
  | succ made ih =>
    have ready := undisturbed_rested (s := s) ih made
    rw [known]
    dsimp only
    cases (s.reply made).delay with
    | none => exact ready
    | some span => exact (ready.advance span).1

/-! ### One attempt -/

private theorem pauseBefore_eq (calm : s.world.time.Undisturbed scope) (made : Nat) :
    s.transport.pauseBefore scope s.attempt made (s.last made) (s.known made) =
      if s.transport.isPauseInRange made then (.ok (), s.ready made)
      else (.error (.of .outOfRange), s.known made) := by
  cases made with
  | zero =>
    rw [if_pos s.transport.isPauseInRange_zero]
    rfl
  | succ before =>
    rw [Transport.pauseBefore, if_neg (Nat.succ_ne_zero before)]
    cases inRange : s.transport.isPauseInRange (before + 1) with
    | false => rfl
    | true =>
      refine (Act.bind_ok rfl).trans (World.sleep_eq ?_ _)
      exact undisturbed_known calm (before + 1)

private theorem send_eq (made : Nat) : World.send s.attempt (s.ready made) =
    (.ok (s.outcome made), s.known (made + 1)) := by
  have reply : (s.ready made).client (s.ready made).sent.length = s.reply made := by
    rw [ready, client_rested, client_known, sent_rested, sent_known, List.length_append,
      List.length_replicate, Series.reply]
  unfold World.send
  rw [reply]
  rfl

private theorem checkAfter_eq (calm : s.world.time.Undisturbed scope) (made : Nat) (o : Outcome) :
    Transport.checkAfter scope o (s.known made) = (.ok (), s.known made) := by
  have checked := (undisturbed_known calm made).check
  cases o with
  | timedOut reason => exact congrArg (·, s.known made) checked
  | answer status body => rfl
  | broken reason => rfl
  | failed f => rfl

/-- What one attempt does: it cannot be made, it decides, or it leaves the rest to the others. -/
theorem attempts_step (calm : s.world.time.Undisturbed scope) (left made : Nat) :
    s.transport.attempts scope s.attempt (left + 1) made (s.last made) (s.known made) =
      if s.transport.isPauseInRange made then
        if (s.outcome made).isDecisive then ((s.outcome made).result, s.known (made + 1))
        else s.transport.attempts scope s.attempt left (made + 1) (s.last (made + 1))
          (s.known (made + 1))
      else (.error (.of .outOfRange), s.known made) := by
  have paused := pauseBefore_eq calm made
  rw [Transport.attempts]
  cases inRange : s.transport.isPauseInRange made with
  | false =>
    rw [inRange] at paused
    exact Act.bind_error paused
  | true =>
    rw [inRange] at paused
    have ready := undisturbed_rested (s := s) (undisturbed_known calm made) made
    have checked : World.check scope (s.ready made) = (.ok (), s.ready made) :=
      congrArg (·, s.ready made) ready.check
    have unlimited : World.remaining scope (s.ready made) = (.ok none, s.ready made) :=
      congrArg (fun left => (Except.ok left, s.ready made)) ready.remaining
    rw [Act.bind_ok paused, Act.bind_ok checked, Act.bind_ok unlimited]
    -- Without a deadline the attempt may take the configured time, as all others.
    change (World.send s.attempt >>= _) (s.ready made) = _
    rw [Act.bind_ok (send_eq made), Act.bind_ok (checkAfter_eq calm (made + 1) (s.outcome made))]
    cases decisive : (s.outcome made).isDecisive with
    | true =>
      rw [Outcome.verdict_of_decisive decisive]
      cases (s.outcome made).result <;> rfl
    | false =>
      rw [(Outcome.result_of_indecisive decisive).2]
      rfl

/-! ### All attempts -/

/-- Attempts that decide nothing are followed by the others. -/
theorem attempts_skip (calm : s.world.time.Undisturbed scope) {made : Nat} (left : Nat)
    (inRange : ∀ before, before < made → s.transport.isPauseInRange before = true)
    (indecisive : ∀ before, before < made → (s.outcome before).isDecisive = false) :
    s.transport.attempts scope s.attempt (made + left) 0 (s.last 0) s.world =
      s.transport.attempts scope s.attempt left made (s.last made) (s.known made) := by
  -- On the attempts that are skipped, so that each step adds the last of them.
  induction made generalizing left with
  | zero => rw [Nat.zero_add]; rfl
  | succ made ih =>
    rw [Nat.succ_add_eq_add_succ, ih (left + 1) (fun before earlier => inRange before (by omega))
      (fun before earlier => indecisive before (by omega)), attempts_step calm,
      if_pos (inRange made (Nat.lt_succ_self made)), indecisive made (Nat.lt_succ_self made)]
    rfl

private theorem attempts_spent {tries : Nat} : s.transport.attempts scope s.attempt 0 tries (s.last tries)
    (s.known tries) = (.error (s.last tries), s.exhausted tries) := rfl

/-- What becomes of a request that may make `tries` attempts, in a scope that nothing ends. -/
structure Retried (s : Series τ) (tries : Nat) (answer : Except Fault Text.Bytes × World τ) : Prop where
  /-- The first decisive outcome is what the request comes to, and nothing is sent after it. -/
  decided : ∀ made, made < tries → (s.outcome made).isDecisive = true →
    (∀ before, before < made → (s.outcome before).isDecisive = false) →
      s.transport.isPauseInRange made = true →
        answer = ((s.outcome made).result, s.known (made + 1))
  /-- Without a decisive outcome every attempt is made, and what the last came to is reported. -/
  spent : ∀ others, tries = others + 1 →
    (∀ made, made < tries → (s.outcome made).isDecisive = false) →
      s.transport.isPauseInRange others = true →
        answer = ((s.outcome others).result, s.exhausted tries)
  /-- The first pause that is out of range ends the request: the failure of the attempt before it is
  not reported, and the attempt after it is not made. -/
  overrun : ∀ made, made < tries →
    (∀ before, before < made → (s.outcome before).isDecisive = false) →
      (∀ before, before < made → s.transport.isPauseInRange before = true) →
        s.transport.isPauseInRange made = false → answer = (.error (.of .outOfRange), s.known made)
  /-- All attempts are the same. -/
  sent : ∀ made, (s.known made).sent = s.world.sent ++ List.replicate made s.attempt
  /-- The first attempt is made at once. -/
  prompt : s.ready 0 = s.world
  /-- Between two attempts the first pause passes, doubled for every attempt before. -/
  waits : ∀ made, (s.ready (made + 1)).time.now =
    Timeline.passed (s.known (made + 1)).time.now (TimeScale.doubled s.transport.pause made)
  exactly : ∀ [ExactScale τ] made,
    ¬ TimeScale.doubled s.transport.pause made < TimeScale.zero →
      ExactScale.value (s.ready (made + 1)).time.now =
        ExactScale.value (s.known (made + 1)).time.now +
          ExactScale.value s.transport.pause * 2 ^ made
  /-- Apart from the pauses no time passes but what the replies take. -/
  answered : ∀ made, (s.known (made + 1)).time.now =
    (s.reply made).delay.elim (s.ready made).time.now (Timeline.passed (s.ready made).time.now)

private theorem now_ready (calm : s.world.time.Undisturbed scope) (made : Nat) :
    (s.ready (made + 1)).time.now =
      Timeline.passed (s.known (made + 1)).time.now (TimeScale.doubled s.transport.pause made) :=
  ((undisturbed_known calm (made + 1)).advance _).2

private theorem now_known (calm : s.world.time.Undisturbed scope) (made : Nat) :
    (s.known (made + 1)).time.now =
      (s.reply made).delay.elim (s.ready made).time.now (Timeline.passed (s.ready made).time.now) := by
  have ready : (s.ready made).time.Undisturbed scope :=
    undisturbed_rested (undisturbed_known calm made) made
  rw [known]
  dsimp only
  cases (s.reply made).delay with
  | none => rfl
  | some span => exact (ready.advance span).2

theorem retried_attempts (calm : s.world.time.Undisturbed scope) (tries : Nat) :
    s.Retried tries (s.transport.attempts scope s.attempt tries 0 (s.last 0) s.world) where
  decided made within decisive indecisive inRange := by
    obtain ⟨left, rfl⟩ := Nat.exists_eq_add_of_lt within
    have earlier : ∀ before, before < made → s.transport.isPauseInRange before = true :=
      fun before less => Transport.isPauseInRange_of_le (Nat.le_of_lt less) inRange
    rw [Nat.add_assoc, attempts_skip calm (left + 1) earlier indecisive, attempts_step calm,
      if_pos inRange, if_pos decisive]
  spent others all indecisive inRange := by
    subst all
    have earlier : ∀ before, before < others + 1 → s.transport.isPauseInRange before = true :=
      fun before less => Transport.isPauseInRange_of_le (Nat.le_of_lt_succ less) inRange
    have last : (s.outcome others).result = .error (s.last (others + 1)) :=
      (Outcome.result_of_indecisive (indecisive others (Nat.lt_succ_self others))).1
    rw [last]
    exact (attempts_skip calm 0 earlier indecisive).trans attempts_spent
  overrun made within indecisive earlier outOfRange := by
    obtain ⟨left, rfl⟩ := Nat.exists_eq_add_of_lt within
    rw [Nat.add_assoc, attempts_skip calm (left + 1) earlier indecisive, attempts_step calm, outOfRange]
    rfl
  sent := sent_known
  prompt := rfl
  waits := now_ready calm
  exactly made forward := by
    rw [now_ready calm, Timeline.passed, if_neg forward, ExactScale.value_add, ExactScale.value_doubled]
  answered := now_known calm

end Series

/-- A request that can be sent, in a scope that nothing ends, makes one attempt and as many others as
are configured, or three. -/
theorem Transport.request_retried {maxRetries : Int} {body : Option String} {w : World τ}
    {scope : ScopeId} (timeout pause : τ) (ask : Ask) (allowed : 0 ≤ maxRetries)
    (written : bodyText ask.payload = .ok body) (calm : w.time.Undisturbed scope) :
    Series.Retried ⟨configure timeout maxRetries pause, ask, body, w⟩
      (1 + if maxRetries = 0 then 3 else maxRetries.toNat)
      ((configure timeout maxRetries pause).request scope ask w) := by
  have tries : ((configure timeout maxRetries pause).maxRetries + 1).toNat =
      1 + if maxRetries = 0 then 3 else maxRetries.toNat := by
    change ((if maxRetries = 0 then 3 else maxRetries) + 1).toNat = _
    split <;> omega
  have sent : (configure timeout maxRetries pause).request scope ask w =
      (configure timeout maxRetries pause).attempts scope
        (Series.attempt ⟨configure timeout maxRetries pause, ask, body, w⟩)
        ((configure timeout maxRetries pause).maxRetries + 1).toNat 0 (.of .illTyped) w := by
    rw [request, written]
    rfl
  rw [sent, tries]
  exact Series.retried_attempts calm _

/-- Every request is refused for the time being, and nothing ends the scope it is made in. -/
def World.refusing : World Float :=
  { World.start fun _ => { outcome := .answer 503 [] } with
    time := (Timeline.openScope none none .start).2 }

/-- Of 1026 attempts at a backend that is not available the last is not made, and that it is not
available is not what is reported, even if there is nothing to wait for. -/
theorem Transport.request_overrun :
    ((configure 0 1025 0).request 0 { method := "POST", url := "https://api.test/x" }
        World.refusing).1 = .error (.of .outOfRange) ∧
      ((configure 0 1025 0).request 0 { method := "POST", url := "https://api.test/x" }
        World.refusing).2.sent.length = 1025 := by
  have calm : World.refusing.time.Undisturbed 0 :=
    ⟨rfl, rfl, fun _ set => absurd set List.not_mem_nil⟩
  have retried := request_retried (0 : Float) 0 { method := "POST", url := "https://api.test/x" }
    (by decide : (0 : Int) ≤ 1025) rfl calm
  have ended := retried.overrun 1025 (by decide) (fun _ _ => rfl)
    (fun before earlier => decide_eq_true (Nat.le_of_lt_succ earlier)) rfl
  rw [ended]
  refine ⟨rfl, ?_⟩
  rw [retried.sent, List.length_append, List.length_replicate]
  exact Nat.zero_add 1025

end MemoAssist

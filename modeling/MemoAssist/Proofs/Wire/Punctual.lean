import MemoAssist.Proofs.Scope.Passing
import MemoAssist.Proofs.Wire.Retries

/-! What a request does when its scope may end at any moment, by its deadline or by a cancellation. No
attempt starts in a scope that is over, an attempt may take no longer than the scope has left, and a
request whose attempts keep to that is over no later than its scope. -/
namespace MemoAssist

open ExactScale (value)

variable {τ : Type} [TimeScale τ]

/-- The reply to an attempt that is made in this world. -/
def World.reply (w : World τ) : Reply τ := w.client w.sent.length

/-- When the reply to an attempt that is made in this world is known. -/
def World.replied (w : World τ) : Timeline τ := w.reply.delay.elim w.time fun span => w.time.advance span

/-- The failure tells of no end of the scope that has not come. -/
def Timeline.BearsOut (time : Timeline τ) (scope : ScopeId) (f : Fault) : Prop :=
  (f.kind = .cancelled → time.isCancelled scope = true) ∧
    (f.kind = .deadlineExceeded → time.isExpired scope = true)

theorem Timeline.Over.bearsOut {time : Timeline τ} {scope : ScopeId} {f : Fault}
    (ceased : time.Over scope f) : time.BearsOut scope f := by
  rcases ceased with ⟨kind, cancelled⟩ | ⟨kind, expired⟩
  · exact ⟨fun _ => cancelled, fun other => nomatch kind.symm.trans other⟩
  · exact ⟨fun other => (nomatch kind.symm.trans other), fun _ => expired⟩

private theorem Timeline.bearsOut_of_other {time : Timeline τ} {scope : ScopeId} {f : Fault}
    (uncancelled : f.kind ≠ .cancelled) (unexpired : f.kind ≠ .deadlineExceeded) :
    time.BearsOut scope f :=
  ⟨fun kind => absurd kind uncancelled, fun kind => absurd kind unexpired⟩

private theorem Refusal.fault_bearsOut (status : Int) (body : Text.Bytes) (time : Timeline τ)
    (scope : ScopeId) : time.BearsOut scope (Refusal.fault status body) := by
  unfold Refusal.fault
  dsimp only
  repeat' split
  all_goals exact ⟨nofun, nofun⟩

/-- What an outcome comes to tells nothing of the scope, unless the client failed in a way of its own. -/
theorem Outcome.result_bearsOut {o : Outcome} {f : Fault} (scope : ScopeId) (failed : o.result = .error f) :
    o = .failed f ∨ ∀ time : Timeline τ, time.BearsOut scope f := by
  cases o with
  | answer status body =>
    rw [result] at failed
    split_ifs at failed with success deep
    · cases failed
      exact .inr fun _ => Timeline.bearsOut_of_other (by decide) (by decide)
    · cases failed
      exact .inr fun time => Refusal.fault_bearsOut status body time scope
  | timedOut reason | broken reason =>
    cases failed
    exact .inr fun _ => Timeline.bearsOut_of_other FaultKind.noConfusion FaultKind.noConfusion
  | failed g =>
    cases failed
    exact .inl rfl

namespace Transport

section

variable (t : Transport τ) (scope : ScopeId) (attempt : Sent τ)

/-- How long an attempt may take that starts in a world. -/
def limit (start : World τ) : τ := t.attemptTimeout (start.time.remaining scope)

/-- What goes to the client if an attempt starts in a world. -/
def limited (start : World τ) : Sent τ := { attempt with timeout := t.limit scope start }

/-- The world once the outcome of an attempt is known. -/
def known (start : World τ) : World τ :=
  { start with time := start.replied, sent := start.sent ++ [t.limited scope attempt start] }

/-- What comes before an attempt: the pause, and a look at the scope. -/
def approach (made : Nat) (last : Fault) : Act (World τ) Unit := do
  t.pauseBefore scope attempt made last
  World.check scope

/-- The attempts at a request, by the worlds in which they start, and what the request comes to. Up to
`left` attempts follow on `made` others, the last of which came to `last`. -/
inductive Attempted :
    (left made : Nat) → (last : Fault) → World τ → List (World τ) →
      Except Fault Text.Bytes × World τ → Prop where
  | spent {made last w} :
      Attempted 0 made last w []
        (.error last, { w with
          journal := w.journal ++
            [.gaveUp attempt.method attempt.url (t.maxRetries + 1) last.message] })
  /-- The scope ends before the attempt, or the pause is out of range. -/
  | prevented {left made last w f after}
      (ended : t.approach scope attempt made last w = (.error f, after)) :
      Attempted (left + 1) made last w [] (.error f, after)
  /-- The attempt takes too long, and so the scope ends. -/
  | outlasted {left made last w start f}
      (ready : t.approach scope attempt made last w = (.ok (), start))
      (ended : checkAfter scope start.reply.outcome (t.known scope attempt start) =
        (.error f, t.known scope attempt start)) :
      Attempted (left + 1) made last w [start] (.error f, t.known scope attempt start)
  | decided {left made last w start}
      (ready : t.approach scope attempt made last w = (.ok (), start))
      (decisive : start.reply.outcome.isDecisive = true) :
      Attempted (left + 1) made last w [start]
        (start.reply.outcome.result, t.known scope attempt start)
  | again {left made last w start starts answer}
      (ready : t.approach scope attempt made last w = (.ok (), start))
      (live : checkAfter scope start.reply.outcome (t.known scope attempt start) =
        (.ok (), t.known scope attempt start))
      (undecided : start.reply.outcome.isDecisive = false)
      (rest : Attempted left (made + 1) start.reply.outcome.fault (t.known scope attempt start)
        starts answer) :
      Attempted (left + 1) made last w (start :: starts) answer

end

variable {t : Transport τ} {scope : ScopeId} {attempt : Sent τ} {left made : Nat} {last : Fault}
  {w start : World τ} {starts : List (World τ)} {answer : Except Fault Text.Bytes × World τ}

private theorem attempts_succ :
    t.attempts scope attempt (left + 1) made last w =
      (t.approach scope attempt made last >>= fun _ => do
        let remaining ← World.remaining scope
        let outcome ← World.send { attempt with timeout := t.attemptTimeout remaining }
        checkAfter scope outcome
        match verdict outcome with
        | .success body => pure body
        | .failure f => Act.fail f
        | .again f => t.attempts scope attempt left (made + 1) f) w := by
  rw [attempts, approach]
  exact congrFun (Act.bind_assoc ..).symm w

private theorem checkAfter_cases (o : Outcome) (w : World τ) :
    checkAfter scope o w = (.ok (), w) ∨
      ∃ f, checkAfter scope o w = (.error f, w) ∧ w.time.check scope = .error f := by
  cases o with
  | timedOut reason =>
    change (w.time.check scope, w) = _ ∨ ∃ f, (w.time.check scope, w) = _ ∧ _
    cases checked : w.time.check scope with
    | ok ready => exact .inl rfl
    | error f => exact .inr ⟨f, rfl, rfl⟩
  | answer status body => exact .inl rfl
  | broken reason => exact .inl rfl
  | failed f => exact .inl rfl

theorem attempts_attempted (t : Transport τ) (scope : ScopeId) (attempt : Sent τ) (left made : Nat)
    (last : Fault) (w : World τ) :
    ∃ starts, Attempted t scope attempt left made last w starts
      (t.attempts scope attempt left made last w) := by
  induction left generalizing made last w with
  | zero => exact ⟨[], .spent⟩
  | succ left ih =>
    rw [attempts_succ]
    rcases ready : t.approach scope attempt made last w with ⟨f | ⟨⟩, start⟩
    · rw [Act.bind_error ready]
      exact ⟨[], .prevented ready⟩
    · have remaining : World.remaining scope start = (.ok (start.time.remaining scope), start) := rfl
      have sent : World.send (t.limited scope attempt start) start =
          (.ok start.reply.outcome, t.known scope attempt start) := rfl
      rw [Act.bind_ok ready, Act.bind_ok remaining]
      change ∃ starts, Attempted t scope attempt (left + 1) made last w starts
        ((World.send (t.limited scope attempt start) >>= _) start)
      rw [Act.bind_ok sent]
      rcases checkAfter_cases start.reply.outcome (t.known scope attempt start) with live | ⟨f, ended, -⟩
      · rw [Act.bind_ok live]
        cases decisive : start.reply.outcome.isDecisive with
        | true =>
          have decided : Attempted t scope attempt (left + 1) made last w [start] _ :=
            .decided ready decisive
          refine ⟨[start], ?_⟩
          rw [Outcome.verdict_of_decisive decisive]
          cases result : start.reply.outcome.result with
          | ok body =>
            rw [result] at decided
            exact decided
          | error f =>
            rw [result] at decided
            exact decided
        | false =>
          rw [(Outcome.result_of_indecisive decisive).2]
          obtain ⟨starts, rest⟩ := ih (made + 1) start.reply.outcome.fault (t.known scope attempt start)
          exact ⟨start :: starts, .again ready live decisive rest⟩
      · rw [Act.bind_error ended]
        exact ⟨[start], .outlasted ready ended⟩

/-! ### Before an attempt -/

/-- Either there is no pause, or it is out of range, or it is a sleep in the scope. -/
theorem pauseBefore_cases (t : Transport τ) (scope : ScopeId) (attempt : Sent τ) (made : Nat)
    (last : Fault) (w : World τ) :
    t.pauseBefore scope attempt made last w = (.ok (), w) ∨
      t.pauseBefore scope attempt made last w = (.error (.of .outOfRange), w) ∨
        ∃ span journal, t.pauseBefore scope attempt made last w =
          ((w.time.sleep scope span).1, { w with time := (w.time.sleep scope span).2, journal }) := by
  unfold pauseBefore
  split
  · exact .inl rfl
  · split
    · exact .inr (.inl rfl)
    · exact .inr (.inr ⟨_, _, rfl⟩)

/-- What has become of a world when an attempt could start, whether or not it can. -/
structure Approached [TrueScale τ] (scope : ScopeId) (w : World τ)
    (approached : Except Fault Unit × World τ) : Prop where
  settles : w.time.Settles scope approached.2.time
  sent : approached.2.sent = w.sent
  bearsOut : ∀ f, approached.1 = .error f → approached.2.time.BearsOut scope f
  inTime : ∀ ends, w.time.scopes.deadline scope = some ends →
    value approached.2.time.now ≤ max (value w.time.now) (value ends)

private theorem approached_pause [TrueScale τ] (t : Transport τ) (scope : ScopeId) (attempt : Sent τ)
    (made : Nat) (last : Fault) (w : World τ) :
    Approached scope w (t.pauseBefore scope attempt made last w) := by
  rcases pauseBefore_cases t scope attempt made last w with none | outOfRange | ⟨span, journal, slept⟩
  · rw [none]
    exact ⟨.refl, rfl, nofun, fun _ _ => le_max_left _ _⟩
  · rw [outOfRange]
    refine ⟨.refl, rfl, fun f failed => ?_, fun _ _ => le_max_left _ _⟩
    cases failed
    exact ⟨nofun, nofun⟩
  · obtain ⟨settles, failed, inTime⟩ := w.time.sleep_settles scope span
    rw [slept]
    exact ⟨settles, rfl, fun f ended => (failed f ended).bearsOut, inTime⟩

theorem approached {outcome : Except Fault Unit} {after : World τ} [TrueScale τ]
    (done : t.approach scope attempt made last w = (outcome, after)) :
    Approached scope w (outcome, after) := by
  have paused := approached_pause t scope attempt made last w
  rw [← done, approach]
  rcases pause : t.pauseBefore scope attempt made last w with ⟨f | ⟨⟩, start⟩
  · rw [Act.bind_error pause]
    rwa [pause] at paused
  · rw [Act.bind_ok pause]
    rw [pause] at paused
    exact ⟨paused.settles, paused.sent, fun f ended => (Timeline.check_over ended).bearsOut, paused.inTime⟩

private theorem check_of_approach (ready : t.approach scope attempt made last w = (.ok (), start)) :
    start.time.check scope = .ok () := by
  rw [approach] at ready
  rcases pause : t.pauseBefore scope attempt made last w with ⟨f | ⟨⟩, paused⟩
  · rw [Act.bind_error pause] at ready
    cases ready
  · rw [Act.bind_ok pause] at ready
    have checked := congrArg Prod.fst ready
    have same : paused = start := congrArg Prod.snd ready
    exact same ▸ checked

/-! ### During an attempt -/

section

variable [TrueScale τ]

theorem settles_replied : start.time.Settles scope start.replied := by
  unfold World.replied
  cases start.reply.delay with
  | none => exact .refl
  | some span => exact Timeline.advance_settles

omit [TrueScale τ] in
private theorem limit_endless (endless : start.time.scopes.deadline scope = none) :
    t.limit scope start = t.timeout := by
  rw [limit, Timeline.remaining, Forest.remaining, endless]
  rfl

/-- A scope that is not over comes to its deadline later. -/
theorem now_lt_of_live {ends : τ} (set : start.time.scopes.deadline scope = some ends)
    (live : start.time.check scope = .ok ()) : value start.time.now < value ends := by
  have lasting := (Timeline.check_ok_iff.mp live).2
  refine not_le.mp fun reached => ?_
  exact Bool.false_ne_true (lasting.symm.trans ((Timeline.isExpired_iff set).mpr reached))

/-- An attempt may take the configured time, but no longer than the scope has left. -/
theorem value_limit {ends : τ} (set : start.time.scopes.deadline scope = some ends)
    (live : start.time.check scope = .ok ()) :
    value (t.limit scope start) = min (value t.timeout) (value ends - value start.time.now) := by
  obtain ⟨left, bounded⟩ : ∃ left, start.time.remaining scope = some left :=
    ⟨_, by rw [Timeline.remaining, Forest.remaining, set]; rfl⟩
  have ahead : 0 ≤ value ends - value start.time.now := sub_nonneg.mpr (now_lt_of_live set live).le
  rw [limit, bounded, attemptTimeout, ExactScale.value_earlier, Timeline.value_remaining set bounded,
    max_eq_right ahead]

/-! ### All attempts -/

theorem Attempted.live (attempted : Attempted t scope attempt left made last w starts answer) :
    ∀ start ∈ starts, w.time.Settles scope start.time ∧ start.time.check scope = .ok () := by
  induction attempted with
  | spent | prevented => nofun
  | outlasted ready | decided ready =>
    intro start member
    obtain rfl := List.mem_singleton.mp member
    exact ⟨(approached ready).settles, check_of_approach ready⟩
  | again ready _ _ _ ih =>
    intro start member
    rcases List.mem_cons.mp member with rfl | later
    · exact ⟨(approached ready).settles, check_of_approach ready⟩
    · obtain ⟨settles, live⟩ := ih start later
      exact ⟨((approached ready).settles.trans settles_replied).trans settles, live⟩

theorem Attempted.settles (attempted : Attempted t scope attempt left made last w starts answer) :
    w.time.Settles scope answer.2.time := by
  induction attempted with
  | spent => exact .refl
  | prevented ended => exact (approached ended).settles
  | outlasted ready | decided ready => exact (approached ready).settles.trans settles_replied
  | again ready _ _ _ ih => exact ((approached ready).settles.trans settles_replied).trans ih

theorem Attempted.sent (attempted : Attempted t scope attempt left made last w starts answer) :
    answer.2.sent = w.sent ++ starts.map (t.limited scope attempt) := by
  induction attempted with
  | spent => exact (List.append_nil _).symm
  | prevented ended => exact (approached ended).sent.trans (List.append_nil _).symm
  | outlasted ready | decided ready => exact congrArg (· ++ [_]) (approached ready).sent
  | @again _ _ _ _ start _ _ ready _ _ _ ih =>
    have before : start.sent = _ := (approached ready).sent
    have first : (t.known scope attempt start).sent = start.sent ++ [t.limited scope attempt start] := rfl
    rw [ih, first, before, List.map_cons, List.append_assoc, List.singleton_append]

/-- A failure that the client hands out itself is handed on, whatever it tells. -/
theorem Attempted.bearsOut (attempted : Attempted t scope attempt left made last w starts answer)
    (silent : ∀ time : Timeline τ, time.BearsOut scope last) {f : Fault} (failed : answer.1 = .error f) :
    answer.2.time.BearsOut scope f ∨
      ∃ start, starts.getLast? = some start ∧ start.reply.outcome = .failed f := by
  induction attempted with
  | spent => exact .inl (Except.error.inj failed ▸ silent _)
  | prevented ended =>
    exact .inl ((approached ended).bearsOut f (congrArg Except.error (Except.error.inj failed)))
  | @outlasted _ _ _ _ start g ready ended =>
    rcases checkAfter_cases start.reply.outcome (t.known scope attempt start) with live | ⟨h, ceased, checked⟩
    · rw [live] at ended
      cases ended
    · rw [ceased] at ended
      obtain rfl : h = g := by cases ended; rfl
      exact .inl (Except.error.inj failed ▸ (Timeline.check_over checked).bearsOut)
  | @decided _ _ _ _ start ready decisive =>
    rcases Outcome.result_bearsOut (τ := τ) scope failed with own | silent
    · exact .inr ⟨start, rfl, own⟩
    · exact .inl (silent _)
  | @again _ _ _ _ start starts _ _ _ undecided _ ih =>
    have next : ∀ time : Timeline τ, time.BearsOut scope start.reply.outcome.fault := by
      rcases Outcome.result_bearsOut (τ := τ) scope (Outcome.result_of_indecisive undecided).1 with
        own | silent
      · rw [own] at undecided
        cases undecided
      · exact silent
    refine (ih next failed).imp_right fun ⟨final, final_eq, own⟩ => ⟨final, ?_, own⟩
    rw [List.getLast?_cons, final_eq]
    rfl

/-- If no attempt takes longer than it may, the request is over no later than the scope. -/
theorem Attempted.inTime (attempted : Attempted t scope attempt left made last w starts answer)
    (brief : ∀ start ∈ starts,
      value start.replied.now ≤ value start.time.now + value (t.limit scope start))
    (set : w.time.scopes.deadline scope = some ends) :
    value answer.2.time.now ≤ max (value w.time.now) (value ends) := by
  -- An attempt starts before the deadline, and it may take no longer than until then.
  have attempt_inTime {start : World τ} {made last} {w : World τ}
      (ready : t.approach scope attempt made last w = (.ok (), start))
      (set : w.time.scopes.deadline scope = some ends)
      (brief : value start.replied.now ≤ value start.time.now + value (t.limit scope start)) :
      start.replied.scopes.deadline scope = some ends ∧ value start.replied.now ≤ value ends := by
    have still : start.time.scopes.deadline scope = some ends :=
      (approached ready).settles.deadline.trans set
    refine ⟨settles_replied.deadline.trans still, brief.trans ?_⟩
    rw [value_limit still (check_of_approach ready), ← le_sub_iff_add_le']
    exact min_le_right _ _
  induction attempted with
  | spent => exact le_max_left _ _
  | prevented ended => exact (approached ended).inTime ends set
  | outlasted ready | decided ready =>
    exact le_max_of_le_right (attempt_inTime ready set (brief _ List.mem_cons_self)).2
  | again ready _ _ _ ih =>
    obtain ⟨still, inTime⟩ := attempt_inTime ready set (brief _ List.mem_cons_self)
    have rest := ih (fun start later => brief start (List.mem_cons_of_mem _ later)) still
    exact rest.trans (max_le (le_max_of_le_right inTime) (le_max_right _ _))

end

/-! ### The request -/

/-- The attempts at a request, by the worlds in which they start, and what the request comes to. -/
inductive Requested (t : Transport τ) (scope : ScopeId) (ask : Ask) (w : World τ) :
    List (World τ) → Except Fault Text.Bytes × World τ → Prop where
  | unwritten {f} (failed : bodyText ask.payload = .error f) :
      Requested t scope ask w [] (.error f, w)
  | sent {body starts answer} (written : bodyText ask.payload = .ok body)
      (attempted : Attempted t scope (Series.attempt ⟨t, ask, body, w⟩) (t.maxRetries + 1).toNat 0
        (.of .illTyped) w starts answer) :
      Requested t scope ask w starts answer

/-- What holds of a request, whenever and however its scope ends. -/
structure Punctual [TrueScale τ] (t : Transport τ) (scope : ScopeId) (w : World τ)
    (starts : List (World τ)) (answer : Except Fault Text.Bytes × World τ) : Prop where
  /-- No attempt is made but these, and each with its limit. -/
  sent : answer.2.sent.map Sent.timeout = w.sent.map Sent.timeout ++ starts.map (t.limit scope)
  /-- No attempt starts when the scope is cancelled or has come to its deadline. -/
  live : ∀ start ∈ starts, start.time.isCancelled scope = false ∧
    ∀ ends, w.time.scopes.deadline scope = some ends → value start.time.now < value ends
  /-- None starts when a moment has come that was set for the cancellation of the scope or of one
  above it, unless no time has passed at all. -/
  uncalled : w.time.Orderly scope → ∀ start ∈ starts, ∀ alarm ∈ w.time.alarms,
    Beneath w.time.scopes.parentOf alarm.scope scope →
      value start.time.now < value alarm.due ∨ value start.time.now = value w.time.now
  unlimited : w.time.scopes.deadline scope = none → ∀ start ∈ starts, t.limit scope start = t.timeout
  limited : ∀ ends, w.time.scopes.deadline scope = some ends → ∀ start ∈ starts,
    value (t.limit scope start) = min (value t.timeout) (value ends - value start.time.now)
  /-- That the scope is cancelled is told only if it is, unless the client itself tells it. -/
  cancelled : ∀ f, answer.1 = .error f → f.kind = .cancelled →
    answer.2.time.isCancelled scope = true ∨
      ∃ start, starts.getLast? = some start ∧ start.reply.outcome = .failed f
  /-- It is cancelled only if it was, or was to be by then, or one above it was. -/
  called : answer.2.time.isCancelled scope = true → w.time.isCancelled scope = true ∨
    ∃ alarm ∈ w.time.alarms, Beneath w.time.scopes.parentOf alarm.scope scope ∧
      value alarm.due ≤ value answer.2.time.now
  /-- That the deadline is exceeded is told only if it has come, unless the client itself tells it. -/
  expired : ∀ f, answer.1 = .error f → f.kind = .deadlineExceeded →
    (∃ ends, w.time.scopes.deadline scope = some ends ∧ value ends ≤ value answer.2.time.now) ∨
      ∃ start, starts.getLast? = some start ∧ start.reply.outcome = .failed f
  /-- If no attempt takes longer than its limit, the request is over no later than the scope. -/
  inTime : (∀ start ∈ starts,
      value start.replied.now ≤ value start.time.now + value (t.limit scope start)) →
    ∀ ends, w.time.scopes.deadline scope = some ends →
      value answer.2.time.now ≤ max (value w.time.now) (value ends)

private theorem Attempted.punctual [TrueScale τ]
    (attempted : Attempted t scope attempt left made last w starts answer)
    (silent : ∀ time : Timeline τ, time.BearsOut scope last) : Punctual t scope w starts answer where
  sent := by
    rw [attempted.sent, List.map_append, List.map_map]
    rfl
  live start member := by
    obtain ⟨settles, live⟩ := attempted.live start member
    exact ⟨(Timeline.check_ok_iff.mp live).1,
      fun ends set => now_lt_of_live (settles.deadline.trans set) live⟩
  uncalled orderly start member alarm waiting above := by
    obtain ⟨settles, live⟩ := attempted.live start member
    by_contra neither
    obtain ⟨due, moved⟩ := not_or.mp neither
    have standing := (Timeline.check_ok_iff.mp live).1
    exact moved (le_antisymm (settles.unheard orderly standing waiting above (not_lt.mp due))
      settles.forward)
  unlimited endless start member :=
    limit_endless ((attempted.live start member).1.deadline.trans endless)
  limited ends set start member := by
    obtain ⟨settles, live⟩ := attempted.live start member
    exact value_limit (settles.deadline.trans set) live
  cancelled f failed kind :=
    (attempted.bearsOut silent failed).imp_left fun bearsOut => bearsOut.1 kind
  called := attempted.settles.called
  expired f failed kind := by
    refine (attempted.bearsOut silent failed).imp_left fun bearsOut => ?_
    obtain ⟨ends, set, reached⟩ := Timeline.deadline_of_expired (bearsOut.2 kind)
    exact ⟨ends, attempted.settles.deadline.symm.trans set, reached⟩
  inTime brief ends set := attempted.inTime brief set

private theorem bodyText_error {payload : Option Payload} {f : Fault} (failed : bodyText payload = .error f) :
    f = unmarshalled := by
  unfold bodyText at failed
  split at failed
  · cases failed
  · split at failed
    · exact (Except.error.inj failed).symm
    · cases failed
  · exact (Except.error.inj failed).symm

/-- Where nothing is sent, a failure that tells nothing of the scope is all there is. -/
theorem punctual_unsent [TrueScale τ] {f : Fault}
    (silent : ∀ time : Timeline τ, time.BearsOut scope f) : Punctual t scope w [] (.error f, w) where
  sent := (List.append_nil _).symm
  live := nofun
  uncalled _ := nofun
  unlimited _ := nofun
  limited _ _ := nofun
  cancelled _ failed kind := .inl ((silent w.time).1 (Except.error.inj failed ▸ kind))
  called := Or.inl
  expired _ failed kind :=
    .inl (Timeline.deadline_of_expired ((silent w.time).2 (Except.error.inj failed ▸ kind)))
  inTime _ _ _ := le_max_left _ _

/-- A request keeps to the scope it is made in: its attempts start before the scope is over and may
take no longer than it, and only if the scope is over does the request say so. -/
theorem request_punctual [TrueScale τ] (t : Transport τ) (scope : ScopeId) (ask : Ask) (w : World τ) :
    ∃ starts, Requested t scope ask w starts (t.request scope ask w) ∧
      Punctual t scope w starts (t.request scope ask w) := by
  have silent (time : Timeline τ) : time.BearsOut scope (.of .illTyped) :=
    Timeline.bearsOut_of_other (by decide) (by decide)
  rw [request]
  cases written : bodyText ask.payload with
  | error f =>
    rw [Act.bind_error (Act.ofExcept_eq _ _)]
    refine ⟨[], .unwritten written, punctual_unsent fun _ => ?_⟩
    rw [bodyText_error written]
    exact Timeline.bearsOut_of_other (by decide) (by decide)
  | ok body =>
    rw [Act.bind_ok (Act.ofExcept_eq _ _)]
    obtain ⟨starts, attempted⟩ := attempts_attempted t scope
      (Series.attempt ⟨t, ask, body, w⟩) (t.maxRetries + 1).toNat 0 (.of .illTyped) w
    exact ⟨starts, .sent written attempted, attempted.punctual silent⟩

end Transport

/-- Every reply takes two seconds, and the scope of the requests has five. -/
def World.sluggish : World Int :=
  { World.start fun _ => { outcome := .answer 503 [], delay := some (2000000 : Int) } with
    time := (Timeline.openScope (some (5000000 : Int)) none .start).2 }

/-- There is time for two attempts, and in the pause before the third the scope ends. -/
example :
    let (outcome, after) := (Transport.configure (30000000 : Int) 0 1000000).request 0
      { method := "POST", url := "https://api.test/x" } World.sluggish
    outcome = .error (.of .deadlineExceeded) ∧ after.time.now = 5000000 ∧
      after.sent.map Sent.timeout = [5000000, 2000000] :=
  ⟨rfl, by decide, by decide⟩

end MemoAssist

import MemoAssist.Proofs.Wire.Heard
import MemoAssist.Proofs.Wire.Punctual

namespace MemoAssist

variable {τ : Type}

/-- An attempt that carries what was asked for. How long it may take is its own affair. -/
structure Sent.Carries (s : Sent τ) (ask : Ask) : Prop where
  method : s.method = ask.method
  url : s.url = ask.url
  headers : s.headers = Headers.setAll [("Content-Type", "application/json")] ask.headers
  body : Transport.bodyText ask.payload = .ok s.body

namespace Transport

variable {t : Transport τ} {scope : ScopeId} {ask : Ask} {attempt : Sent τ} {left made : Nat}
  {last : Fault} {w after : World τ} {starts : List (World τ)}
  {answer : Except Fault Text.Bytes × World τ}

/-- A value is written as it stands, unless one of its numbers is too long. -/
theorem bodyText_value {v : Json} {body : Option String} :
    bodyText (some (.value v)) = .ok body ↔ v.hasLongNumber = false ∧ body = some v.write := by
  rw [bodyText]
  cases v.hasLongNumber with
  | true => exact ⟨nofun, nofun⟩
  | false => exact ⟨fun written => ⟨rfl, (Except.ok.inj written).symm⟩, fun ⟨_, same⟩ => same ▸ rfl⟩

/-- What a request makes of the record: these attempts are added to it. -/
structure Delivered (ask : Ask) (w : World τ) (extra : List (Sent τ))
    (answer : Except Fault Text.Bytes × World τ) : Prop where
  sent : answer.2.sent = w.sent ++ extra
  client : answer.2.client = w.client
  carries : ∀ s ∈ extra, s.Carries ask
  /-- A body that comes back was in the reply to the last attempt, which was a success. -/
  answered : ∀ body, answer.1 = .ok body → ∃ earlier, extra.length = earlier + 1 ∧
    ∃ status, (w.client (w.sent.length + earlier)).outcome = .answer status body ∧
      200 ≤ status ∧ status < 300

private theorem delivered_nothing {f : Fault} (sent : after.sent = w.sent) (client : after.client = w.client) :
    Delivered ask w [] (.error f, after) where
  sent := sent.trans (List.append_nil _).symm
  client := client
  carries := nofun
  answered := nofun

theorem Delivered.cons {between : World τ} {s : Sent τ} {extra : List (Sent τ)}
    (sent : between.sent = w.sent ++ [s]) (client : between.client = w.client)
    (carries : s.Carries ask) (rest : Delivered ask between extra answer) :
    Delivered ask w (s :: extra) answer where
  sent := by rw [rest.sent, sent, List.append_assoc, List.singleton_append]
  client := rest.client.trans client
  carries := List.forall_mem_cons.mpr ⟨carries, rest.carries⟩
  answered body came := by
    obtain ⟨earlier, number, status, reply, success⟩ := rest.answered body came
    refine ⟨earlier + 1, congrArg (· + 1) number, status, ?_, success⟩
    rw [client, sent, List.length_append, List.length_singleton, Nat.add_assoc,
      Nat.add_comm 1] at reply
    exact reply

/-- One attempt whose outcome is what the request comes to. -/
theorem delivered_once {result : Except Fault Text.Bytes} {s : Sent τ} (sent : after.sent = w.sent ++ [s])
    (client : after.client = w.client) (carries : s.Carries ask)
    (told : ∀ body, result = .ok body → ∃ status,
      (w.client w.sent.length).outcome = .answer status body ∧ 200 ≤ status ∧ status < 300) :
    Delivered ask w [s] (result, after) where
  sent := sent
  client := client
  carries := List.forall_mem_singleton.mpr carries
  answered body came := ⟨0, rfl, told body came⟩

private theorem result_ok {o : Outcome} {body : Text.Bytes} (came : o.result = .ok body) :
    ∃ status, o = .answer status body ∧ 200 ≤ status ∧ status < 300 := by
  cases o with
  | answer status heard =>
    by_cases success : 200 ≤ status ∧ status < 300
    · rw [Outcome.result, if_pos success] at came
      cases came
      exact ⟨status, rfl, success⟩
    · rw [Outcome.result, if_neg success] at came
      split at came <;> cases came
  | timedOut reason | broken reason | failed f => cases came

variable [TimeScale τ]

/-- Before an attempt nothing is sent, and nobody else answers. -/
theorem approach_keeps {outcome : Except Fault Unit}
    (done : t.approach scope attempt made last w = (outcome, after)) :
    after.sent = w.sent ∧ after.client = w.client := by
  have paused : (t.pauseBefore scope attempt made last w).2.sent = w.sent ∧
      (t.pauseBefore scope attempt made last w).2.client = w.client := by
    rcases pauseBefore_cases t scope attempt made last w with none | outOfRange | ⟨span, journal, slept⟩
    · rw [none]; exact ⟨rfl, rfl⟩
    · rw [outOfRange]; exact ⟨rfl, rfl⟩
    · rw [slept]; exact ⟨rfl, rfl⟩
  rw [approach] at done
  rcases pause : t.pauseBefore scope attempt made last w with ⟨f | ⟨⟩, start⟩
  · rw [Act.bind_error pause] at done
    rw [pause] at paused
    cases done
    exact paused
  · rw [Act.bind_ok pause] at done
    rw [pause] at paused
    have same : start = after := congrArg Prod.snd done
    exact same ▸ paused

theorem Attempted.delivered (carries : ∀ limit : τ, Sent.Carries { attempt with timeout := limit } ask)
    (attempted : Attempted t scope attempt left made last w starts answer) :
    Delivered ask w (starts.map (t.limited scope attempt)) answer := by
  have known {start : World τ} {made last} {w : World τ}
      (ready : t.approach scope attempt made last w = (.ok (), start)) :
      (t.known scope attempt start).sent = w.sent ++ [t.limited scope attempt start] ∧
        (t.known scope attempt start).client = w.client ∧ start.reply = w.client w.sent.length := by
    obtain ⟨sent, client⟩ := approach_keeps ready
    refine ⟨congrArg (· ++ [_]) sent, client, ?_⟩
    rw [World.reply, sent, client]
  induction attempted with
  | spent => exact delivered_nothing rfl rfl
  | prevented ended =>
    obtain ⟨sent, client⟩ := approach_keeps ended
    exact delivered_nothing sent client
  | outlasted ready =>
    obtain ⟨sent, client, -⟩ := known ready
    exact delivered_once sent client (carries _) nofun
  | decided ready =>
    obtain ⟨sent, client, reply⟩ := known ready
    refine delivered_once sent client (carries _) fun body came => ?_
    obtain ⟨status, told, success⟩ := result_ok came
    exact ⟨status, reply ▸ told, success⟩
  | again ready _ _ _ ih =>
    obtain ⟨sent, client, -⟩ := known ready
    exact .cons sent client (carries _) ih

/-- In a scope that is not over the first attempt is made. -/
theorem Attempted.ne_nil (live : w.time.check scope = .ok ())
    (attempted : Attempted t scope attempt (left + 1) 0 last w starts answer) : starts ≠ [] := by
  cases attempted with
  | prevented ended =>
    have ready : t.approach scope attempt 0 last w = (.ok (), w) := congrArg (·, w) live
    rw [ready] at ended
    cases ended
  | outlasted | decided | again => exact List.cons_ne_nil _ _

/-- What a request adds to the record, which is not nothing if it can be sent. -/
theorem request_delivered (t : Transport τ) (scope : ScopeId) (ask : Ask) (w : World τ) :
    ∃ extra, Delivered ask w extra (t.request scope ask w) ∧
      (0 ≤ t.maxRetries → World.Sendable scope w ask → extra ≠ []) := by
  rw [request]
  cases written : bodyText ask.payload with
  | error f =>
    rw [Act.bind_error (Act.ofExcept_eq _ _)]
    refine ⟨[], delivered_nothing rfl rfl, fun _ sendable => ?_⟩
    obtain ⟨text, found⟩ := sendable.written
    rw [written] at found
    cases found
  | ok body =>
    rw [Act.bind_ok (Act.ofExcept_eq _ _)]
    obtain ⟨starts, attempted⟩ := attempts_attempted t scope
      (Series.attempt ⟨t, ask, body, w⟩) (t.maxRetries + 1).toNat 0 (.of .illTyped) w
    refine ⟨_, attempted.delivered fun _ => ⟨rfl, rfl, rfl, written⟩, fun allowed sendable => ?_⟩
    obtain ⟨left, tries⟩ : ∃ left, (t.maxRetries + 1).toNat = left + 1 :=
      ⟨t.maxRetries.toNat, by omega⟩
    rw [tries] at attempted
    exact mt List.map_eq_nil_iff.mp (attempted.ne_nil sendable.live)

/-- In a scope that nothing ends, a request that is answered by a success is sent once, and nothing
ends the scope afterwards. -/
theorem request_calm {body : Option String} (calm : w.time.Undisturbed scope)
    (welcoming : w.Welcoming) (allowed : 0 ≤ t.maxRetries) (written : bodyText ask.payload = .ok body) :
    ∃ heard after, t.request scope ask w = (.ok heard, after) ∧ World.Heard w [heard] after ∧
      after.time.Undisturbed scope := by
  let s : Series τ := ⟨t, ask, body, w⟩
  obtain ⟨left, tries⟩ : ∃ left, (t.maxRetries + 1).toNat = left + 1 :=
    ⟨t.maxRetries.toNat, by omega⟩
  obtain ⟨status, heard, told, low, high⟩ := welcoming w.sent.length le_rfl
  have outcome : s.outcome 0 = .answer status heard := told
  have result : (s.outcome 0).result = .ok heard := by
    rw [outcome, Outcome.result, if_pos ⟨low, high⟩]
  have decisive : (s.outcome 0).isDecisive = true := by
    rw [outcome, Outcome.isDecisive, decide_eq_true low, decide_eq_true high]
    rfl
  have retried := Series.retried_attempts (s := s) calm (left + 1)
  have decided := retried.decided 0 (Nat.succ_pos left) decisive
    (fun _ below => absurd below (Nat.not_lt_zero _)) s.transport.isPauseInRange_zero
  have requested : t.request scope ask w =
      s.transport.attempts scope s.attempt (left + 1) 0 (s.last 0) w := by
    rw [request, tries, Act.bind_ok ((Act.ofExcept_eq _ _).trans (congrArg (·, w) written))]
    rfl
  refine ⟨heard, s.known 1, ?_, ⟨Series.client_known 1, ?_, ?_⟩, Series.undisturbed_known calm 1⟩
  · rw [requested, decided, result]
  · rw [Series.sent_known, List.length_append, List.length_replicate]
    rfl
  · intro made other found
    cases made with
    | zero =>
      cases found
      exact congrArg Outcome.body? told
    | succ made => cases found

end Transport

namespace World

/-- Whatever is sent is answered by the same success, in a scope that nothing ends. -/
def telling (body : Text.Bytes) : World Int :=
  (openScope none none (start fun _ => ⟨.answer 200 body, none⟩)).2

variable {body : Text.Bytes}

private theorem welcoming_telling : (telling body).Welcoming :=
  fun _ _ => ⟨200, body, rfl, by decide, by decide⟩

private theorem calm_telling : (telling body).time.Undisturbed 0 :=
  ⟨rfl, rfl, fun _ set => absurd set List.not_mem_nil⟩

theorem request_telling {t : Transport Int} {text : Option String} (body : Text.Bytes) (ask : Ask)
    (allowed : 0 ≤ t.maxRetries) (written : Transport.bodyText ask.payload = .ok text) :
    ∃ after, t.request 0 ask (telling body) = (.ok body, after) := by
  obtain ⟨heard, after, requested, known, -⟩ :=
    Transport.request_calm calm_telling welcoming_telling allowed written
  cases known.replies 0 heard rfl
  exact ⟨after, requested⟩

end World

end MemoAssist

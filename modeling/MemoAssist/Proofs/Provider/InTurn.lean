import MemoAssist.Proofs.Provider.Answers
import MemoAssist.Proofs.Provider.Numbered
import MemoAssist.Proofs.Wire.Delivery

namespace MemoAssist

open Json

variable {τ α : Type} [TimeScale τ] {p : Provider τ} {scope : ScopeId} {w after : World τ}

namespace Provider

theorem exchange_ok {ask : Ask} {read : Text.Bytes → Except Fault α} {body : Text.Bytes}
    (requested : p.transport.request scope ask w = (.ok body, after)) :
    p.exchange scope ask read w = (read body, after) :=
  (Act.bind_ok requested).trans (Act.ofExcept_eq _ _)

omit [TimeScale τ] in
theorem whenConfigured_eq (configured : p.isConfigured = true) (work : Act (World τ) α) :
    p.whenConfigured work = work := by
  rw [whenConfigured, requireConfigured, if_pos configured]
  rfl

omit [TimeScale τ] in
theorem whenConfigured_unfit (unfit : p.isConfigured = false) (work : Act (World τ) α) :
    p.whenConfigured work w = (.error (.of .notConfigured), w) := by
  rw [whenConfigured, requireConfigured, unfit]
  rfl

end Provider

namespace Ollama

/-- What a reply reports: vectors, of which the first counts, and a number of tokens. -/
structure Report where
  vectors : List Json
  tokens : Int

namespace Report

/-- The vector for the text that was sent. -/
def vector (report : Report) : Json := report.vectors.headD (.arr [])

/-- This is what a body reports. A field that is not there stands for no vectors, or no tokens. -/
def StandsIn (report : Report) (body : Text.Bytes) : Prop :=
  ∃ reply, readBytes? body = some (.obj reply) ∧
    Provider.fieldOr reply "embeddings" (.arr []) = .arr report.vectors ∧
      tokensIn reply = .int report.tokens

/-- The tokens of all reports. -/
def total (reports : List Report) : Int := (reports.map tokens).sum

theorem StandsIn.read {report : Report} {body : Text.Bytes} (stands : report.StandsIn body) :
    readEmbedding body = .ok (report.vector, .int report.tokens) := by
  obtain ⟨reply, held, vectors, tokens⟩ := stands
  have front : vectorIn reply = .ok report.vector := by
    rw [vectorIn, vectors, Report.vector]
    cases report.vectors <;> rfl
  rw [readEmbedding_eq, bind_of_ok (readObject_of_held _ held), bind_of_ok front, tokens]

end Report

/-- The requests for texts, in turn and up to the first that fails: the texts that are tried, and
what the replies report or the failure of the last request. -/
inductive InTurn (p : Provider τ) (scope : ScopeId) (model : String) : (texts tried : List String) →
    World τ → Except Fault (List Report) → World τ → Prop
  | done {w : World τ} : InTurn p scope model [] [] w (.ok []) w
  | failed {text : String} {rest : List String} {w after : World τ} {f : Fault}
      (refused : p.transport.request scope (embeddingAsk p model text) w = (.error f, after)) :
      InTurn p scope model (text :: rest) [text] w (.error f) after
  | next {text : String} {rest tried : List String} {w between after : World τ} {body : Text.Bytes}
      {report : Report} {outcome : Except Fault (List Report)}
      (answered : p.transport.request scope (embeddingAsk p model text) w = (.ok body, between))
      (stands : report.StandsIn body) (later : InTurn p scope model rest tried between outcome after) :
      InTurn p scope model (text :: rest) (text :: tried) w (outcome.map (report :: ·)) after

variable {model : String} {texts tried : List String} {outcome : Except Fault (List Report)}

/-- What the loop over the texts comes to, with the tokens counted before. -/
theorem InTurn.embedAll (run : InTurn p scope model texts tried w outcome after) (tokens : Int) :
    embedAll p scope model (.int tokens) texts w =
      (outcome.map fun reports =>
        (reports.map Report.vector, .int (tokens + Report.total reports)), after) := by
  induction run generalizing tokens with
  | done =>
    have nothing : Report.total [] = 0 := rfl
    rw [Ollama.embedAll]
    simp only [Except.map, nothing, Int.add_zero]
    rfl
  | failed refused =>
    have ended : p.exchange scope (embeddingAsk p model _) readEmbedding _ = _ := Act.bind_error refused
    rw [Ollama.embedAll, Act.bind_error ended]
    rfl
  | @next text rest tried w between after body report outcome answered stands later ih =>
    have exchanged : p.exchange scope (embeddingAsk p model text) readEmbedding w = _ :=
      Provider.exchange_ok answered
    rw [stands.read] at exchanged
    have added : (Json.int tokens).add (.int report.tokens) = .ok (.int (tokens + report.tokens)) := rfl
    rw [Ollama.embedAll, Act.bind_ok exchanged]
    dsimp only
    rw [added, Act.bind_ok (Act.ofExcept_eq _ _)]
    cases outcome with
    | error f => exact Act.bind_error (ih _)
    | ok reports =>
      have all : tokens + report.tokens + Report.total reports =
          tokens + Report.total (report :: reports) := by
        rw [Report.total, Report.total, List.map_cons, List.sum_cons, Int.add_assoc]
      have others : Ollama.embedAll p scope model (.int (tokens + report.tokens)) rest between =
          (.ok (reports.map Report.vector, .int (tokens + Report.total (report :: reports))), after) := by
        rw [← all]
        exact ih _
      exact Act.bind_ok others

/-- A run that ends well tries every text and has a report for each. -/
theorem InTurn.whole {reports : List Report}
    (run : InTurn p scope model texts tried w (.ok reports) after) :
    tried = texts ∧ reports.length = texts.length := by
  generalize ended : Except.ok reports = outcome at run
  induction run generalizing reports with
  | done =>
    cases ended
    exact ⟨rfl, rfl⟩
  | failed => cases ended
  | @next text _ _ _ _ _ _ _ outcome _ _ _ ih =>
    cases outcome with
    | error f => cases ended
    | ok others =>
      cases ended
      obtain ⟨all, number⟩ := ih rfl
      exact ⟨congrArg (text :: ·) all, congrArg (· + 1) number⟩

/-- A run that fails ends with the text that was tried last: those before it have their reports, and
none behind it is sent. -/
theorem InTurn.broken {f : Fault} (run : InTurn p scope model texts tried w (.error f) after) :
    ∃ earlier text behind reports between, texts = earlier ++ text :: behind ∧
      tried = earlier ++ [text] ∧ InTurn p scope model earlier earlier w (.ok reports) between ∧
        p.transport.request scope (embeddingAsk p model text) between = (.error f, after) := by
  generalize ended : Except.error f = outcome at run
  induction run with
  | done => cases ended
  | @failed text rest w after f refused =>
    cases ended
    exact ⟨[], text, rest, [], w, rfl, rfl, .done, refused⟩
  | @next text rest tried w between after body report outcome answered stands later ih =>
    cases outcome with
    | ok others => cases ended
    | error f =>
      cases ended
      obtain ⟨earlier, last, behind, reports, before, rfl, rfl, run, refused⟩ := ih rfl
      exact ⟨text :: earlier, last, behind, report :: reports, before, rfl, rfl,
        .next answered stands run, refused⟩

/-- What a run adds to the record of requests: for each text that is tried a group of attempts, in
turn. A request that is answered has an attempt at least. -/
structure Recorded (p : Provider τ) (model : String) (tried : List String) (w : World τ)
    (outcome : Except Fault (List Report)) (after : World τ) (groups : List (List (Sent τ))) : Prop where
  sent : after.sent = w.sent ++ groups.flatten
  carries : List.Forall₂ (fun text group => ∀ s ∈ group, Sent.Carries s (embeddingAsk p model text))
    tried groups
  earlier : [] ∉ groups.dropLast
  answered : ∀ reports, outcome = .ok reports → [] ∉ groups

theorem InTurn.recorded (run : InTurn p scope model texts tried w outcome after) :
    ∃ groups, Recorded p model tried w outcome after groups := by
  induction run with
  | @done w => exact ⟨[], (List.append_nil _).symm, .nil, List.not_mem_nil, fun _ _ => List.not_mem_nil⟩
  | @failed text rest w after f refused =>
    obtain ⟨extra, delivered, -⟩ :=
      Transport.request_delivered p.transport scope (embeddingAsk p model text) w
    rw [refused] at delivered
    refine ⟨[extra], ?_, .cons delivered.carries .nil, List.not_mem_nil, nofun⟩
    rw [List.flatten_singleton]
    exact delivered.sent
  | @next text rest tried w between after body report outcome answered stands later ih =>
    obtain ⟨extra, delivered, -⟩ :=
      Transport.request_delivered p.transport scope (embeddingAsk p model text) w
    rw [answered] at delivered
    obtain ⟨earlier, number, -⟩ := delivered.answered body rfl
    have some : extra ≠ [] := List.ne_nil_of_length_eq_add_one number
    obtain ⟨groups, recorded⟩ := ih
    refine ⟨extra :: groups, ?_, .cons delivered.carries recorded.carries, ?_, fun reports ended => ?_⟩
    · rw [recorded.sent, delivered.sent, List.flatten_cons, List.append_assoc]
    · cases groups with
      | nil => exact List.not_mem_nil
      | cons group groups =>
        rw [List.dropLast_cons_cons]
        exact List.not_mem_cons_of_ne_of_not_mem some.symm recorded.earlier
    · cases outcome with
      | error f => cases ended
      | ok others => exact List.not_mem_cons_of_ne_of_not_mem some.symm (recorded.answered _ rfl)

/-- Every success that is still to come reports something. -/
def Reporting (w : World τ) : Prop := ∀ made status body, w.sent.length ≤ made →
  (w.client made).outcome = .answer status body → 200 ≤ status → status < 300 →
    ∃ report : Report, report.StandsIn body

omit [TimeScale τ] in
theorem Reporting.on (reporting : Reporting w) (client : after.client = w.client)
    (longer : w.sent.length ≤ after.sent.length) : Reporting after := by
  intro made status body later
  rw [client]
  exact reporting made status body (longer.trans later)

/-- Every loop over texts is a run of requests in turn, if the backend keeps to its interface. -/
theorem inTurn_total (model : String) (texts : List String) (reporting : Reporting w) :
    ∃ tried outcome after, InTurn p scope model texts tried w outcome after := by
  induction texts generalizing w with
  | nil => exact ⟨_, _, _, .done⟩
  | cons text rest ih =>
    obtain ⟨extra, delivered, -⟩ :=
      Transport.request_delivered p.transport scope (embeddingAsk p model text) w
    rcases requested : p.transport.request scope (embeddingAsk p model text) w with ⟨f | body, between⟩
    · exact ⟨_, _, _, .failed requested⟩
    · rw [requested] at delivered
      obtain ⟨earlier, -, status, told, low, high⟩ := delivered.answered body rfl
      obtain ⟨report, stands⟩ := reporting _ status body (Nat.le_add_right _ _) told low high
      have longer : w.sent.length ≤ between.sent.length := by
        rw [delivered.sent, List.length_append]
        exact Nat.le_add_right _ _
      obtain ⟨tried, outcome, after, run⟩ := ih (reporting.on delivered.client longer)
      exact ⟨_, _, _, .next requested stands run⟩

/-- Where every reply is a success and nothing ends the scope, every text is sent once and has its
report. -/
theorem inTurn_calm (model : String) (texts : List String) (reporting : Reporting w)
    (welcoming : w.Welcoming) (calm : w.time.Undisturbed scope) (allowed : 0 ≤ p.transport.maxRetries) :
    ∃ reports after, InTurn p scope model texts texts w (.ok reports) after ∧
      after.sent.length = w.sent.length + texts.length := by
  induction texts generalizing w with
  | nil => exact ⟨[], w, .done, rfl⟩
  | cons text rest ih =>
    have written : ∃ body, Transport.bodyText (embeddingAsk p model text).payload = .ok body := ⟨_, rfl⟩
    obtain ⟨_, written⟩ := written
    obtain ⟨body, between, requested, heard, still⟩ :=
      Transport.request_calm (t := p.transport) calm welcoming allowed written
    obtain ⟨status, told, replied, low, high⟩ := welcoming w.sent.length le_rfl
    obtain ⟨report, stands⟩ := reporting _ status told le_rfl replied low high
    have same : told = body := by
      have reply := heard.replies 0 body rfl
      rw [Nat.add_zero, replied] at reply
      exact Option.some.inj reply
    have longer : between.sent.length = w.sent.length + 1 := heard.sent
    obtain ⟨reports, after, run, all⟩ :=
      ih (reporting.on heard.client (by omega)) (welcoming.heard heard) still
    refine ⟨report :: reports, after, .next requested (same ▸ stands) run, ?_⟩
    rw [all, longer, List.length_cons]
    omega

end Ollama

end MemoAssist

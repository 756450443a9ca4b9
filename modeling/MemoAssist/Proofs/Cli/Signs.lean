import MemoAssist.Proofs.Cli.Showing
import MemoAssist.Proofs.Setting.Reload

/-! Signs of life of all registered providers. Each is probed whatever was found of those before it, and
what is printed is an entry for each, in the order in which they are registered. An entry is a line unless
the text of a backend in it has lines of its own. An entry with half a surrogate pair in it cannot be
written, which ends the command: the providers behind it are not probed. -/
namespace MemoAssist.Cli

variable {τ : Type} [TimeScale τ] {scope : ScopeId} {kind : ProviderKind} {p : Provider τ}
  {w next after : World τ} {entries rest : List (ProviderKind × Provider τ)} {health last : Health}
  {healths : List Health} {s : Setting} {around : Surroundings} {i : Invocation} {home : FilePath}

/-! ### One provider after the other -/

/-- The text in an entry that is not from here: a version as a server tells it, or a failure. -/
def Health.quoted : Health → String
  | .version v => v.text
  | .failed f => f.message
  | _ => ""

/-- What is found of a provider, and the world that the probe leaves. One that is not configured is not
asked for anything; a failure of language-model work is a finding like an answer. -/
inductive Finding (scope : ScopeId) (p : Provider τ) (w : World τ) : Health → World τ → Prop where
  | unconfigured (idle : p.isConfigured = false) : Finding scope p w .notConfigured w
  | version {v : Json} {next : World τ} (ready : p.isConfigured = true) (family : p.kind = .ollama)
    (told : p.version scope w = (.ok v, next)) : Finding scope p w (.version v) next
  | models {names : List Json} {next : World τ} (ready : p.isConfigured = true)
    (family : p.kind ≠ .ollama) (told : p.models scope w = (.ok names, next)) :
    Finding scope p w (.models names.length) next
  | failed {f : Fault} {next : World τ} (ready : p.isConfigured = true)
    (told : signOfLife scope p w = (.error f, next)) (known : f.isA .modelWork = true) :
    Finding scope p w (.failed f) next

/-- Providers and what is found of them, each in the world that the probes before it have left. -/
inductive Surveyed (scope : ScopeId) :
    List (ProviderKind × Provider τ) → World τ → List Health → World τ → Prop where
  | done {w : World τ} : Surveyed scope [] w [] w
  | probed {kind : ProviderKind} {p : Provider τ} {rest : List (ProviderKind × Provider τ)}
    {w next after : World τ} {health : Health} {healths : List Health}
    (finding : Finding scope p w health next) (later : Surveyed scope rest next healths after) :
    Surveyed scope ((kind, p) :: rest) w (health :: healths) after

/-- Whoever is asked answers or fails with a failure of language-model work. -/
def Tame (scope : ScopeId) : List (ProviderKind × Provider τ) → World τ → Prop
  | [], _ => True
  | (_, p) :: rest, w =>
    if p.isConfigured then
      (∀ f, (signOfLife scope p w).1 = .error f → f.isA .modelWork = true) ∧
        Tame scope rest (signOfLife scope p w).2
    else Tame scope rest w

instance decidableKnown : (outcome : Except Fault Health) →
    Decidable (∀ f, outcome = .error f → f.isA .modelWork = true)
  | .ok _ => .isTrue nofun
  | .error f => decidable_of_iff (f.isA .modelWork = true)
    ⟨fun known _ same => Except.error.inj same ▸ known, fun known => known f rfl⟩

instance decidableTame : (entries : List (ProviderKind × Provider τ)) → (w : World τ) →
    Decidable (Tame scope entries w)
  | [], _ => .isTrue trivial
  | (_, p) :: rest, w =>
    have := decidableTame rest (signOfLife scope p w).2
    have := decidableTame rest w
    inferInstanceAs (Decidable (if p.isConfigured then
      (∀ f, (signOfLife scope p w).1 = .error f → f.isA .modelWork = true) ∧
        Tame scope rest (signOfLife scope p w).2
      else Tame scope rest w))

private theorem signOfLife_ollama (family : p.kind = .ollama) :
    signOfLife scope p = p.version scope >>= fun v => pure (.version v) := by
  rw [signOfLife, family]

private theorem signOfLife_remote (family : p.kind ≠ .ollama) :
    signOfLife scope p = p.models scope >>= fun names => pure (.models names.length) := by
  unfold signOfLife
  split
  · contradiction
  · rfl

private theorem finding_of_answer (ready : p.isConfigured = true)
    (told : signOfLife scope p w = (.ok health, next)) : Finding scope p w health next := by
  by_cases family : p.kind = .ollama
  · rw [signOfLife_ollama family] at told
    obtain ⟨v, _, told, made⟩ := Act.of_bind_ok told
    cases made
    exact .version ready family told
  · rw [signOfLife_remote family] at told
    obtain ⟨names, _, told, made⟩ := Act.of_bind_ok told
    cases made
    exact .models ready family told

theorem Tame.surveyed (tame : Tame scope entries w) :
    ∃ healths after, Surveyed scope entries w healths after := by
  induction entries generalizing w with
  | nil => exact ⟨[], w, .done⟩
  | cons entry rest ih =>
    obtain ⟨kind, p⟩ := entry
    rw [Tame] at tame
    split at tame
    · next ready =>
      obtain ⟨known, tame⟩ := tame
      obtain ⟨healths, after, later⟩ := ih tame
      rcases told : signOfLife scope p w with ⟨f | health, next⟩
      · rw [told] at known later
        exact ⟨_, after, .probed (.failed ready told (known f rfl)) later⟩
      · rw [told] at later
        exact ⟨_, after, .probed (finding_of_answer ready told) later⟩
    · next idle =>
      obtain ⟨healths, after, later⟩ := ih tame
      exact ⟨_, after, .probed (.unconfigured (Bool.eq_false_iff.mpr idle)) later⟩

/-- Providers up to the first whose entry cannot be written, what is found of those before it, and what is
found of it. -/
inductive Interrupted (scope : ScopeId) :
    List (ProviderKind × Provider τ) → World τ → List Health → Health → World τ → Prop where
  | unwritten {kind : ProviderKind} {p : Provider τ} {rest : List (ProviderKind × Provider τ)}
    {w next : World τ} {last : Health} (finding : Finding scope p w last next)
    (half : Text.hasHalf last.quoted = true) : Interrupted scope ((kind, p) :: rest) w [] last next
  | written {kind : ProviderKind} {p : Provider τ} {rest : List (ProviderKind × Provider τ)}
    {w next after : World τ} {health last : Health} {healths : List Health}
    (finding : Finding scope p w health next) (whole : Text.hasHalf health.quoted = false)
    (later : Interrupted scope rest next healths last after) :
    Interrupted scope ((kind, p) :: rest) w (health :: healths) last after

theorem Surveyed.interrupted (surveyed : Surveyed scope entries w healths after)
    (half : ∃ health ∈ healths, Text.hasHalf health.quoted = true) :
    ∃ before last next, Interrupted scope entries w before last next := by
  induction surveyed with
  | done => exact absurd half (by simp)
  | @probed kind p rest w next after health healths finding _ ih =>
    cases here : Text.hasHalf health.quoted with
    | true => exact ⟨[], health, next, .unwritten finding here⟩
    | false =>
      obtain ⟨other, member, half⟩ := half
      have member : other ∈ healths := by
        refine (List.mem_cons.mp member).resolve_left ?_
        rintro rfl
        exact Bool.false_ne_true (here.symm.trans half)
      obtain ⟨before, last, stopped, later⟩ := ih ⟨other, member, half⟩
      exact ⟨health :: before, last, stopped, .written finding here later⟩

theorem Surveyed.length_eq (surveyed : Surveyed scope entries w healths after) :
    healths.length = entries.length := by
  induction surveyed with
  | done => rfl
  | probed _ _ ih => rw [List.length_cons, List.length_cons, ih]

/-! ### What is printed -/

/-- Only what is quoted can keep an entry from being written. -/
theorem Health.hasHalf_line (health : Health) (kind : ProviderKind) :
    Text.hasHalf (health.line kind) = Text.hasHalf health.quoted := by
  have word : Text.hasHalf kind.word = false := by cases kind <;> decide
  have colon : Text.hasHalf ": " = false := by decide
  rw [line, Text.hasHalf_append, Text.hasHalf_append, word, colon, Bool.false_or, Bool.false_or]
  cases health with
  | notConfigured => decide
  | version v =>
    have around : Text.hasHalf "ok (version " = false ∧ Text.hasHalf ")" = false := by decide
    rw [note, Text.hasHalf_append, Text.hasHalf_append, around.1, around.2, Bool.false_or, Bool.or_false,
      quoted]
  | models count =>
    have around : Text.hasHalf "ok (" = false ∧ Text.hasHalf " models)" = false := by decide
    rw [note, Text.hasHalf_append, Text.hasHalf_append, around.1, around.2, Text.hasHalf_toString]
    rfl
  | failed f =>
    have word : Text.hasHalf (Concern.of f).word = false := by cases Concern.of f <;> decide
    have around : Text.hasHalf " (" = false ∧ Text.hasHalf ")" = false := by decide
    rw [note, Text.hasHalf_append, Text.hasHalf_append, Text.hasHalf_append, word, around.1, around.2,
      Bool.false_or, Bool.false_or, Bool.or_false, quoted]

/-- The entries for providers and what was found of them, as far as anything was. -/
def printout (entries : List (ProviderKind × Provider τ)) (healths : List Health) : String :=
  String.join (List.zipWith (fun entry health => health.line entry.1 ++ "\n") entries healths)

omit [TimeScale τ] in
private theorem printout_cons : printout ((kind, p) :: rest) (health :: healths) =
    health.line kind ++ "\n" ++ printout rest healths := by
  rw [printout, List.zipWith_cons_cons, String.join_cons, printout]

/-- An answer is passed on, and so is a failure of language-model work. -/
theorem probe_eq {outcome : Except Fault Health} (ready : p.isConfigured = true)
    (told : signOfLife scope p w = (outcome, next)) : probe scope p w =
      (match outcome with
        | .ok health => .ok health
        | .error f => if f.isA .modelWork then .ok (.failed f) else .error f, next) := by
  have attempted : Act.attempt (signOfLife scope p) w = (.ok outcome, next) := by
    rw [Act.attempt, told]
  rw [probe, if_pos ready, Act.bind_ok attempted]
  cases outcome with
  | ok health => rfl
  | error f => cases known : f.isA .modelWork <;> simp [known] <;> rfl

theorem Finding.probe_eq (finding : Finding scope p w health next) :
    probe scope p w = (.ok health, next) := by
  cases finding with
  | unconfigured idle =>
    rw [probe, if_neg (Bool.eq_false_iff.mp idle)]
    rfl
  | @version v next ready family told =>
    have answered : signOfLife scope p w = (.ok (.version v), next) := by
      rw [signOfLife_ollama family]
      exact Act.bind_ok told
    exact Cli.probe_eq ready answered
  | @models names next ready family told =>
    have answered : signOfLife scope p w = (.ok (.models names.length), next) := by
      rw [signOfLife_remote family]
      exact Act.bind_ok told
    exact Cli.probe_eq ready answered
  | failed ready told known =>
    rw [Cli.probe_eq ready told]
    simp only [if_pos known]

omit [TimeScale τ] in
private theorem onWorld_eq {α : Type} {work : Act (World τ) α} {session : Session τ}
    {outcome : Except Fault α} (done : work session.world = (outcome, next)) :
    Session.onWorld work session = (outcome, { session with world := next }) := by
  rw [Session.onWorld, Act.within, done]

/-- A probe is followed by its entry, if it can be written, and then by the probes of the others. -/
theorem Finding.probeAll_eq (finding : Finding scope p w health next)
    (whole : Text.hasHalf health.quoted = false) (session : Session τ) (now : session.world = w) :
    probeAll scope ((kind, p) :: rest) session =
      (probeAll scope rest >>= fun failed => pure (failed || health.isFailure))
        { session with world := next, out := session.out ++ health.line kind ++ "\n" } := by
  subst now
  have told : Session.relay (health.line kind) { session with world := next } =
      (.ok (), { session with world := next, out := session.out ++ health.line kind ++ "\n" }) := by
    rw [Session.relay, if_neg (by simp [health.hasHalf_line, whole])]
    rfl
  rw [probeAll, Act.bind_ok (onWorld_eq finding.probe_eq), Act.bind_ok told]

theorem Surveyed.probeAll_eq (surveyed : Surveyed scope entries w healths after)
    (whole : ∀ health ∈ healths, Text.hasHalf health.quoted = false) (session : Session τ)
    (now : session.world = w) : probeAll scope entries session =
      (.ok (healths.any Health.isFailure),
        { session with world := after, out := session.out ++ printout entries healths }) := by
  induction surveyed generalizing session with
  | done =>
    subst now
    rw [printout, List.zipWith_nil_left, String.join_nil, String.append_empty]
    rfl
  | probed finding later ih =>
    obtain ⟨here, there⟩ := List.forall_mem_cons.mp whole
    rw [finding.probeAll_eq here session now, Act.bind_ok (ih there _ rfl), List.any_cons, Bool.or_comm,
      printout_cons, ← String.append_assoc, ← String.append_assoc]
    rfl

theorem Interrupted.probeAll_eq (interrupted : Interrupted scope entries w healths last after)
    (session : Session τ) (now : session.world = w) : probeAll scope entries session =
      (.error (.of .unencodable),
        { session with world := after, out := session.out ++ printout entries healths }) := by
  induction interrupted generalizing session with
  | @unwritten kind p rest w next last finding half =>
    subst now
    have untold : Session.relay (last.line kind) { session with world := next } =
        (.error (.of .unencodable), { session with world := next }) := by
      rw [Session.relay, if_pos (by rw [last.hasHalf_line, half])]
      rfl
    rw [probeAll, Act.bind_ok (onWorld_eq finding.probe_eq), Act.bind_error untold, printout,
      List.zipWith_nil_right, String.join_nil, String.append_empty]
  | written finding whole later ih =>
    rw [finding.probeAll_eq whole session now, Act.bind_error (ih _ rfl), printout_cons,
      ← String.append_assoc, ← String.append_assoc]

/-! ### The command -/

/-- The world in which providers are put to work: time for a command is running, and the journal tells that
they were registered. -/
def started (s : Setting) (world : World τ) : World τ :=
  { world with
    time := (world.time.openScope (some (TimeScale.ofInt commandTimeout)) none).2
    journal := world.journal ++ (Registry.load id s {} : List (Event τ) × Registry (Provider τ)).1 }

/-- A service says in refusing what has two lines, and so has the entry of the only provider. -/
example :
    let s : Setting := { openai := some { apiKey := "k" } }
    let world : World Int := .start (Client.ofReplies [{ outcome := .answer 400 (Text.encode "a\nb") }])
    (probeAll 0 (s.loaded Int).entries { world := started s world }).2.out =
      "openai: error (API error (status 400): a\nb)\n" := by decide +kernel

end MemoAssist.Cli

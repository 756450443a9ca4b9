import MemoAssist.Proofs.Alike
import MemoAssist.Wire.Transport

/-! A veil over one header. Requests that look the same under it are sent the same number of times, at
the same moments, and come to the same. -/
namespace MemoAssist

variable {τ α : Type} {hidden : Option String}

namespace Headers

/-- A header that is hidden loses its value. -/
def veilOne (hidden : Option String) (header : String × String) : String × String :=
  if hidden = some header.1 then (header.1, "") else header

/-- The headers, without the value of the one that is hidden. -/
def veil (hidden : Option String) (headers : Headers) : Headers := headers.map (veilOne hidden)

@[simp] theorem veilOne_fst (header : String × String) : (veilOne hidden header).1 = header.1 := by
  unfold veilOne
  split <;> rfl

private theorem veilOne_eq (header : String × String) :
    (header.1, (veilOne hidden header).2) = veilOne hidden header :=
  Prod.ext (veilOne_fst header).symm rfl

private theorem veil_cons (header : String × String) (headers : Headers) :
    veil hidden (header :: headers) = veilOne hidden header :: veil hidden headers := rfl

private theorem veil_set (header : String × String) (headers : Headers) :
    veil hidden (headers.set header.1 header.2) =
      (veil hidden headers).set (veilOne hidden header).1 (veilOne hidden header).2 := by
  induction headers with
  | nil => rfl
  | cons first rest ih =>
    rw [set, veil_cons, set, veilOne_fst, veilOne_fst]
    by_cases here : first.1 = header.1
    · rw [if_pos here, if_pos here, veil_cons, veilOne_eq]
    · rw [if_neg here, if_neg here, veil_cons, ih, veilOne_fst, veilOne_eq]

private theorem veil_setAll (headers more : Headers) :
    veil hidden (headers.setAll more) = (veil hidden headers).setAll (veil hidden more) := by
  induction more generalizing headers with
  | nil => rfl
  | cons header rest ih =>
    rw [setAll, List.foldl_cons, ← setAll, ih, veil_set]
    rfl

end Headers

def Ask.veil (hidden : Option String) (ask : Ask) : Ask :=
  { ask with headers := ask.headers.veil hidden }

def Sent.veil (hidden : Option String) (attempt : Sent τ) : Sent τ :=
  { attempt with headers := attempt.headers.veil hidden }

/-- Everything there is, but for the value of a header in the requests that were made. -/
def World.veil (hidden : Option String) (w : World τ) : World τ :=
  { w with sent := w.sent.map (Sent.veil hidden) }

theorem Ask.veil_eq_iff {ask ask' : Ask} : ask.veil hidden = ask'.veil hidden ↔
    ask.method = ask'.method ∧ ask.url = ask'.url ∧ ask.payload = ask'.payload ∧
      ask.headers.veil hidden = ask'.headers.veil hidden := by
  rw [veil, veil, Ask.mk.injEq]

theorem Sent.veil_eq_iff {attempt attempt' : Sent τ} :
    attempt.veil hidden = attempt'.veil hidden ↔
      attempt.method = attempt'.method ∧ attempt.url = attempt'.url ∧
        attempt.headers.veil hidden = attempt'.headers.veil hidden ∧
        attempt.body = attempt'.body ∧ attempt.timeout = attempt'.timeout := by
  rw [veil, veil, Sent.mk.injEq]

/-- Work that looks the same with one header hidden. -/
abbrev Veiled (hidden : Option String) (work work' : Act (World τ) α) : Prop :=
  Act.Alike (World.veil hidden) work work'

namespace World

theorem veil_eq_iff {w w' : World τ} : w.veil hidden = w'.veil hidden ↔
    w.time = w'.time ∧ w.entropy = w'.entropy ∧ w.client = w'.client ∧
      w.sent.map (Sent.veil hidden) = w'.sent.map (Sent.veil hidden) ∧ w.journal = w'.journal := by
  rw [veil, veil, World.mk.injEq]

/-- No veil hides nothing. -/
theorem veil_none (w : World τ) : w.veil none = w := by
  have bare : (Sent.veil none : Sent τ → Sent τ) = id := by
    funext attempt
    exact congrArg (fun headers => { attempt with headers }) (List.map_id _)
  rw [veil, bare, List.map_id]

/-- Work on the time looks at nothing else. -/
theorem veiled_onTime (work : Act (Timeline τ) α) :
    Veiled hidden (World.onTime work) (World.onTime work) := by
  intro w w' same
  obtain ⟨time, rest⟩ := veil_eq_iff.mp same
  rw [World.onTime, Act.within, time]
  exact ⟨rfl, veil_eq_iff.mpr ⟨rfl, rest⟩⟩

private theorem veiled_report (e : Event τ) : Veiled hidden (World.report e) (World.report e) := by
  intro w w' same
  obtain ⟨time, entropy, client, sent, journal⟩ := veil_eq_iff.mp same
  exact ⟨rfl, veil_eq_iff.mpr ⟨time, entropy, client, sent, congrArg (· ++ [e]) journal⟩⟩

variable [TimeScale τ]

private theorem veiled_check (scope : ScopeId) :
    Veiled hidden (World.check scope : Act (World τ) Unit) (World.check scope) := by
  intro w w' same
  obtain ⟨time, -⟩ := veil_eq_iff.mp same
  rw [World.check, World.check, time]
  exact ⟨rfl, same⟩

private theorem veiled_remaining (scope : ScopeId) :
    Veiled hidden (World.remaining scope : Act (World τ) (Option τ)) (World.remaining scope) := by
  intro w w' same
  obtain ⟨time, -⟩ := veil_eq_iff.mp same
  rw [World.remaining, World.remaining, time]
  exact ⟨rfl, same⟩

/-- The client answers by the number of requests, whatever is in them. -/
theorem veiled_send {attempt attempt' : Sent τ} (alike : attempt.veil hidden = attempt'.veil hidden) :
    Veiled hidden (World.send attempt) (World.send attempt') := by
  intro w w' same
  obtain ⟨time, entropy, client, sent, journal⟩ := veil_eq_iff.mp same
  have count : w.sent.length = w'.sent.length := by
    rw [← List.length_map (Sent.veil hidden), sent, List.length_map]
  rw [World.send, World.send, time, client, count]
  refine ⟨rfl, veil_eq_iff.mpr ⟨rfl, entropy, rfl, ?_, journal⟩⟩
  rw [List.map_append, List.map_append, sent, List.map_singleton, List.map_singleton, alike]

end World

namespace Transport

variable [TimeScale τ] (t : Transport τ)

private theorem veiled_checkAfter (scope : ScopeId) (outcome : Outcome) :
    Veiled hidden (checkAfter scope outcome : Act (World τ) Unit) (checkAfter scope outcome) := by
  cases outcome with
  | timedOut reason => exact World.veiled_check scope
  | answer | broken | failed => exact .pure ()

private theorem veiled_pauseBefore {attempt attempt' : Sent τ}
    (alike : attempt.veil hidden = attempt'.veil hidden) (scope : ScopeId) (made : Nat) (last : Fault) :
    Veiled hidden (t.pauseBefore scope attempt made last) (t.pauseBefore scope attempt' made last) := by
  obtain ⟨method, url, -⟩ := Sent.veil_eq_iff.mp alike
  rw [pauseBefore, pauseBefore, method, url]
  split
  · exact .pure ()
  · split
    · exact .fail _
    · exact (World.veiled_report _).bind fun _ => World.veiled_onTime _

private theorem veiled_attempts {attempt attempt' : Sent τ}
    (alike : attempt.veil hidden = attempt'.veil hidden) (scope : ScopeId) (left : Nat) :
    ∀ made last, Veiled hidden (t.attempts scope attempt left made last)
      (t.attempts scope attempt' left made last) := by
  induction left with
  | zero =>
    intro made last
    obtain ⟨method, url, -⟩ := Sent.veil_eq_iff.mp alike
    rw [attempts, attempts, method, url]
    exact (World.veiled_report _).bind fun _ => .fail _
  | succ left ih =>
    intro made last
    rw [attempts, attempts]
    refine (t.veiled_pauseBefore alike scope made last).bind fun _ => ?_
    refine (World.veiled_check scope).bind fun _ => ?_
    refine (World.veiled_remaining scope).bind fun remaining => ?_
    obtain ⟨method, url, headers, body, -⟩ := Sent.veil_eq_iff.mp alike
    have limited : Sent.veil hidden { attempt with timeout := t.attemptTimeout remaining } =
        Sent.veil hidden { attempt' with timeout := t.attemptTimeout remaining } :=
      Sent.veil_eq_iff.mpr ⟨method, url, headers, body, rfl⟩
    refine (World.veiled_send limited).bind fun outcome => ?_
    refine (veiled_checkAfter scope outcome).bind fun _ => ?_
    cases verdict outcome with
    | success body => exact .pure body
    | failure f => exact .fail f
    | again f => exact ih (made + 1) f

theorem veiled_request {ask ask' : Ask} (alike : ask.veil hidden = ask'.veil hidden)
    (scope : ScopeId) : Veiled hidden (t.request scope ask) (t.request scope ask') := by
  obtain ⟨method, url, payload, headers⟩ := Ask.veil_eq_iff.mp alike
  rw [request, request, payload]
  refine (Act.Alike.ofExcept _).bind fun body => t.veiled_attempts ?_ scope _ _ _
  refine Sent.veil_eq_iff.mpr ⟨method, url, ?_, rfl, rfl⟩
  rw [Headers.veil_setAll, Headers.veil_setAll, headers]

end Transport

end MemoAssist

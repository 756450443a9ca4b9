import MemoAssist.Proofs.Tagging.Metering
import MemoAssist.Proofs.Tagging.Visits

/-! What a user is told about the quota, and what is granted from then on. The two are worked out
apart from each other. They agree, except that the request that opens a window is admitted even
where none is allowed. -/
namespace MemoAssist

variable {τ κ β : Type} [TimeScale τ]

namespace QuotaTable

variable {limit : Int} {span now : τ} {table : QuotaTable τ} {user : Int} {window : QuotaWindow τ}

/-- How the requests of one user are decided among those of all. -/
def decisions (limit : Int) (span : τ) (table : QuotaTable τ) (arrivals : List (Arrival τ))
    (user : Int) : List Bool :=
  ((serve limit span table arrivals).filter fun decision => decision.1.user = user).map Prod.snd

/-- How many of these requests a user makes. -/
def requestsOf (user : Int) (arrivals : List (Arrival τ)) : Nat :=
  arrivals.countP fun arrival => arrival.user = user

private theorem decisions_eq (limit : Int) (span : τ) (table : QuotaTable τ) (arrivals : List (Arrival τ))
    (user : Int) : decisions limit span table arrivals user =
      (serve limit span table (arrivals.filter fun arrival => arrival.user = user)).map Prod.snd :=
  congrArg (List.map Prod.snd) (serve_alone arrivals rfl)

/-! ### In a window -/

private theorem current?_eq_some : table.current? now user = some window ↔
    table.find? user = some window ∧ ¬ window.ends < now := by
  simp [current?, Option.filter_eq_some_iff]

private theorem status_inside (limit : Int) (span : τ) (inside : table.current? now user = some window) :
    table.status limit span now user = (max 0 (limit - window.count), window.ends - now) := by
  simp only [status, inside]

/-- What is left of a window is what is still admitted in it. -/
theorem verdicts_left (limit count : Int) (length : Nat) :
    verdicts (max 0 (limit - count)) 0 length = verdicts limit count length := by
  apply List.map_congr_left
  intro place _
  rw [decide_eq_decide]
  omega

private theorem decisions_inside {arrivals : List (Arrival τ)} (found : table.find? user = some window)
    (inside : ∀ arrival ∈ arrivals, arrival.user = user → ¬ window.ends < arrival.moment) :
    decisions limit span table arrivals user =
      verdicts limit window.count (requestsOf user arrivals) := by
  have own : ∀ arrival ∈ arrivals.filter fun arrival => arrival.user = user,
      arrival.user = user := by
    intro arrival member
    simpa using (List.mem_filter.mp member).2
  have early : ∀ arrival ∈ arrivals.filter fun arrival => arrival.user = user,
      ¬ window.ends < arrival.moment :=
    fun arrival member => inside arrival (List.mem_of_mem_filter member) (own arrival member)
  rw [decisions_eq, (serve_inside _ own early found).1, requestsOf, List.countP_eq_length_filter]

/-- In a window that is used up, every request is refused. -/
theorem verdicts_spent {count : Int} {length : Nat} (spent : limit ≤ count) :
    ∀ verdict ∈ verdicts limit count length, verdict = false := by
  intro verdict member
  obtain ⟨place, -, rfl⟩ := List.mem_map.mp member
  exact decide_eq_false (by omega)

/-! ### In no window -/

private theorem status_outside (limit : Int) (span : τ) (outside : table.current? now user = none) :
    table.status limit span now user = (limit, span) := by
  simp only [status, outside]

/-- The first of the requests made at a moment opens a window, and the others fall into it. -/
theorem decisions_outside {arrivals : List (Arrival τ)} (lasting : ¬ now + span < now)
    (outside : table.current? now user = none)
    (here : ∀ arrival ∈ arrivals, arrival.user = user → arrival.moment = now) :
    decisions limit span table arrivals user =
      verdicts (max 1 limit) 0 (requestsOf user arrivals) := by
  rw [decisions_eq, requestsOf, List.countP_eq_length_filter]
  have made : ∀ arrival ∈ arrivals.filter fun arrival => arrival.user = user,
      arrival = ⟨now, user⟩ := by
    intro arrival member
    have own : arrival.user = user := by simpa using (List.mem_filter.mp member).2
    have moment := here arrival (List.mem_of_mem_filter member) own
    rw [← own, ← moment]
  generalize arrivals.filter (fun arrival => arrival.user = user) = requests at made ⊢
  cases requests with
  | nil => rfl
  | cons opening more =>
    obtain rfl := made opening List.mem_cons_self
    have rest : ∀ arrival ∈ more, arrival = ⟨now, user⟩ :=
      fun arrival member => made arrival (List.mem_cons_of_mem _ member)
    have opened : (table.put user ⟨1, now + span⟩).find? user = some ⟨1, now + span⟩ := by
      rw [find?_put, if_pos rfl]
    have own : ∀ arrival ∈ more, arrival.user = user := by
      intro arrival member
      rw [rest arrival member]
    have inside : ∀ arrival ∈ more, ¬ now + span < arrival.moment := by
      intro arrival member
      rw [rest arrival member]
      exact lasting
    rw [List.length_cons, verdicts_opened]
    simp only [serve, grant_opens outside, List.map_cons, (serve_inside more own inside opened).1]

end QuotaTable

namespace Tagging

open Room QuotaTable

variable {user : Int} {room : Room τ κ β}

/-- What the table of quotas says of a user: the requests that are left, and for how long. -/
def quotaOf (user : Int) (room : Room τ κ β) : Int × τ :=
  room.tagger.quota.status room.tagger.config.quotaLimit room.tagger.config.quotaWindow
    room.world.time.now user

/-- The window that a user is in. -/
def windowOf (user : Int) (room : Room τ κ β) : Option (QuotaWindow τ) :=
  room.tagger.quota.current? room.world.time.now user

/-- How a room would decide the requests of a user among these. -/
def decided (user : Int) (room : Room τ κ β) (arrivals : List (Arrival τ)) : List Bool :=
  decisions room.tagger.config.quotaLimit room.tagger.config.quotaWindow room.tagger.quota arrivals
    user

/-- The requests of a user among these are made now. -/
def AtOnce (user : Int) (room : Room τ κ β) (arrivals : List (Arrival τ)) : Prop :=
  ∀ arrival ∈ arrivals, arrival.user = user → arrival.moment = room.world.time.now

variable [TrueScale τ]

/-- What a user is told about the quota, beside what is granted. -/
structure Allowance (user : Int) (room : Room τ κ β) : Prop where
  /-- The user is told how many requests are left, and when the window ends, as far as the calendar
  goes. Nothing changes by it. -/
  told : quotaStatus user room =
    (((Instant.ofReading room.world.time.now).after (TimeScale.micros (quotaOf user room).2)).map
      fun reset => ((quotaOf user room).1, reset), room)
  countable : 0 ≤ room.tagger.config.quotaLimit → 0 ≤ (quotaOf user room).1
  /-- As many requests as are left are admitted now, and no more. -/
  enforced : (windowOf user room).isSome ∨ 1 ≤ room.tagger.config.quotaLimit →
    ∀ arrivals, AtOnce user room arrivals →
      decided user room arrivals = verdicts (quotaOf user room).1 0 (requestsOf user arrivals)
  /-- If none is left, none is admitted until the window has ended. -/
  spent : (windowOf user room).isSome ∨ 1 ≤ room.tagger.config.quotaLimit →
    (quotaOf user room).1 = 0 → ∀ arrivals : List (Arrival τ),
      (∀ arrival ∈ arrivals, arrival.user = user →
        arrival.moment ≤ room.world.time.now + (quotaOf user room).2) →
      ∀ decision ∈ decided user room arrivals, decision = false
  /-- The window ends at the moment that is told, on a clock of whole microseconds. -/
  dated : (∀ reading : τ, (TimeScale.micros reading : ℚ) = ExactScale.value reading) →
    ∀ left reset, (quotaStatus user room).1 = .ok (left, reset) → ∀ reading : τ,
      reading ≤ room.world.time.now + (quotaOf user room).2 ↔
        (Instant.ofReading reading).micros ≤ reset.micros
  /-- Where none is allowed, one is admitted in spite of that: it opens a window. -/
  opening : windowOf user room = none → room.tagger.config.quotaLimit < 1 →
    (quotaOf user room).1 = room.tagger.config.quotaLimit ∧
      ∀ arrivals, AtOnce user room arrivals →
        decided user room arrivals = verdicts 1 0 (requestsOf user arrivals)

omit [TrueScale τ] in
private theorem quotaStatus_eq (user : Int) (room : Room τ κ β) : quotaStatus user room =
    (((Instant.ofReading room.world.time.now).after (TimeScale.micros (quotaOf user room).2)).map
      fun reset => ((quotaOf user room).1, reset), room) := by
  change (Act.ofExcept ((Instant.ofReading room.world.time.now).after
    (TimeScale.micros (quotaOf user room).2)) >>= fun reset =>
      pure ((quotaOf user room).1, reset) : Work τ κ β (Int × Instant)) room = _
  rw [Act.ofExcept_map, Act.ofExcept_eq]

/-- The moment that is told is the one at which the clock shows the end of the window. -/
theorem reading_le_reset
    (whole : ∀ reading : τ, (TimeScale.micros reading : ℚ) = ExactScale.value reading)
    {now wait : τ} {reset : Instant}
    (told : (Instant.ofReading now).after (TimeScale.micros wait) = .ok reset) (reading : τ) :
    reading ≤ now + wait ↔ (Instant.ofReading reading).micros ≤ reset.micros := by
  obtain rfl : (⟨(Instant.ofReading now).micros + TimeScale.micros wait⟩ : Instant) = reset := by
    simp only [Instant.after] at told
    split at told
    · cases told
    · exact Except.ok.inj told
  rw [ExactScale.le_iff, ExactScale.value_add, ← whole, ← whole, ← whole]
  simp only [Instant.ofReading]
  norm_cast
  omega

private theorem quotaStatus_dated
    (whole : ∀ reading : τ, (TimeScale.micros reading : ℚ) = ExactScale.value reading)
    {left : Int} {reset : Instant} (told : (quotaStatus user room).1 = .ok (left, reset))
    (reading : τ) : reading ≤ room.world.time.now + (quotaOf user room).2 ↔
      (Instant.ofReading reading).micros ≤ reset.micros := by
  rw [quotaStatus_eq] at told
  cases ends : (Instant.ofReading room.world.time.now).after
      (TimeScale.micros (quotaOf user room).2) with
  | error f =>
    rw [ends] at told
    cases told
  | ok moment =>
    rw [ends] at told
    cases told
    exact reading_le_reset whole ends reading

/-- Outside of any window, all that is allowed is left, and a window opens with the next request. -/
theorem allowance_outside (forward : TimeScale.zero ≤ room.tagger.config.quotaWindow)
    (found : windowOf user room = none) : Allowance user room := by
  have lasting : ¬ room.world.time.now + room.tagger.config.quotaWindow < room.world.time.now := by
    rw [ExactScale.le_iff, TrueScale.value_zero] at forward
    rw [ExactScale.lt_iff, ExactScale.value_add, not_lt]
    linarith
  have left : quotaOf user room = _ := status_outside _ _ found
  have granted : ∀ arrivals, AtOnce user room arrivals → decided user room arrivals =
      verdicts (max 1 room.tagger.config.quotaLimit) 0 (requestsOf user arrivals) :=
    fun _ here => decisions_outside lasting found here
  refine ⟨quotaStatus_eq user room, ?_, ?_, ?_, fun whole _ _ => quotaStatus_dated whole, ?_⟩
  · rw [left]
    exact id
  · intro may arrivals here
    have allowed : 1 ≤ room.tagger.config.quotaLimit := by simpa [found] using may
    rw [granted arrivals here, left, max_eq_right allowed]
  · intro may used
    rw [left] at used
    have allowed : 1 ≤ room.tagger.config.quotaLimit := by simpa [found] using may
    exact absurd used (by omega)
  · intro _ barred
    refine ⟨congrArg Prod.fst left, ?_⟩
    intro arrivals here
    rw [granted arrivals here, max_eq_left (by omega)]

/-- In a window, what is left of it is granted, up to its end. -/
theorem allowance_inside {window : QuotaWindow τ} (found : windowOf user room = some window) :
    Allowance user room := by
  have left : quotaOf user room = _ := status_inside _ _ found
  obtain ⟨recorded, unended⟩ := current?_eq_some.mp found
  refine ⟨quotaStatus_eq user room, ?_, ?_, ?_, fun whole _ _ => quotaStatus_dated whole, ?_⟩
  · intro _
    rw [left]
    exact le_max_left _ _
  · intro _ arrivals here
    rw [left, verdicts_left, decided]
    apply decisions_inside recorded
    intro arrival member own
    rw [here arrival member own]
    exact unended
  · intro _ used arrivals early
    rw [left] at used early
    have inside : ∀ arrival ∈ arrivals, arrival.user = user → ¬ window.ends < arrival.moment := by
      intro arrival member own
      have soon := early arrival member own
      rw [ExactScale.le_iff, ExactScale.value_add, ExactScale.value_sub] at soon
      rw [ExactScale.lt_iff, not_lt]
      linarith
    rw [decided, decisions_inside recorded inside]
    exact verdicts_spent (by simpa using used)
  · intro outside
    rw [found] at outside
    cases outside

/-- What a user is told about the quota is what is granted, for any limit that lets a window have
its first request, and in any window that is open. -/
theorem allowance (forward : TimeScale.zero ≤ room.tagger.config.quotaWindow) (user : Int) :
    Allowance user room := by
  cases found : windowOf user room with
  | none => exact allowance_outside forward found
  | some window => exact allowance_inside found

/-- Where no request is allowed, a new user is told that none is left, and is admitted then. -/
theorem allowance_of_none_allowed :
    let room : Room Int Unit Unit :=
      enter { TaggingConfig.usual with quotaLimit := 0 } (World.start (Client.ofReplies [])) ()
    TimeScale.zero ≤ room.tagger.config.quotaWindow ∧ Allowance 1 room ∧
      (quotaStatus 1 room).1 = .ok (0, ⟨1704067260000000⟩) ∧
      (grant 1 room).1 = .ok () := by
  intro room
  exact ⟨by decide, allowance (by decide) 1, rfl, rfl⟩

end Tagging

end MemoAssist

import MemoAssist.Proofs.Clock.Exact
import MemoAssist.Proofs.Entries
import MemoAssist.Tagging.Tagger
import Mathlib.Data.List.TakeWhile
import Mathlib.Tactic.Linarith

/-! The quota over whole runs. What a user is granted depends on nobody else; the requests of a user
fall into windows, in each of which the first ones are admitted; so no span of the length of a window
sees more than twice the limit. -/
namespace MemoAssist

variable {τ : Type} [TimeScale τ]

/-- A request of a user at a reading of the clock. -/
structure Arrival (τ : Type) where
  moment : τ
  user : Int

namespace QuotaTable

variable {limit : Int} {span : τ} {table other : QuotaTable τ} {user : Int}

/-- Which of these requests are admitted, one after the other. -/
def serve (limit : Int) (span : τ) (table : QuotaTable τ) : List (Arrival τ) → List (Arrival τ × Bool)
  | [] => []
  | arrival :: rest =>
    let (admitted, next) := table.grant limit span arrival.moment arrival.user
    (arrival, admitted) :: serve limit span next rest

/-- The table after these requests. -/
def afterAll (limit : Int) (span : τ) (table : QuotaTable τ) (arrivals : List (Arrival τ)) :
    QuotaTable τ :=
  arrivals.foldl (fun table arrival => (table.grant limit span arrival.moment arrival.user).2) table

/-! ### One request -/

omit [TimeScale τ] in
theorem puts : Puts (@put τ) where
  empty _ _ := rfl
  here _ _ _ _ := if_pos rfl
  elsewhere _ _ _ _ _ apart := if_neg apart

omit [TimeScale τ] in
theorem find?_put {window : QuotaWindow τ} (someone : Int) :
    (table.put user window).find? someone =
      if someone = user then some window else table.find? someone := by
  rw [find?, puts.find?_put]
  split <;> rfl

/-- A request that is refused leaves the table as it is. -/
theorem grant_refused {now : τ} (refused : (table.grant limit span now user).1 = false) :
    (table.grant limit span now user).2 = table := by
  unfold grant at refused ⊢
  split at refused
  · cases refused
  · split at refused
    · next full => simp [full]
    · cases refused

/-- A request opens a window if the user is in none. -/
theorem grant_opens {now : τ} (free : table.current? now user = none) :
    table.grant limit span now user = (true, table.put user ⟨1, now + span⟩) := by
  simp only [grant, free]

private theorem grant_inside (limit : Int) (span : τ) {now : τ} {window : QuotaWindow τ}
    (inside : table.current? now user = some window) :
    table.grant limit span now user =
      if limit ≤ window.count then (false, table)
      else (true, table.put user { window with count := window.count + 1 }) := by
  simp only [grant, inside]

/-! ### Users apart from each other -/

/-- What a user is granted depends on the window of this user only. -/
theorem grant_local (limit : Int) (span now : τ) (same : table.find? user = other.find? user) :
    (table.grant limit span now user).1 = (other.grant limit span now user).1 ∧
      (table.grant limit span now user).2.find? user =
        (other.grant limit span now user).2.find? user := by
  have current : table.current? now user = other.current? now user := by
    simp only [current?, same]
  cases found : other.current? now user with
  | none =>
    rw [grant_opens (current.trans found), grant_opens found]
    simp [find?_put]
  | some window =>
    rw [grant_inside limit span (current.trans found), grant_inside limit span found]
    split
    · exact ⟨rfl, same⟩
    · simp [find?_put]

/-- A request of one user leaves the windows of the others alone. -/
theorem grant_elsewhere {now : τ} {someone : Int} (apart : someone ≠ user) :
    (table.grant limit span now user).2.find? someone = table.find? someone := by
  unfold grant
  split
  · simp [find?_put, apart]
  · split
    · rfl
    · simp [find?_put, apart]

/-- The requests of others make no difference. -/
theorem serve_alone (arrivals : List (Arrival τ)) (same : table.find? user = other.find? user) :
    (serve limit span table arrivals).filter (fun decision => decision.1.user = user) =
      serve limit span other (arrivals.filter fun arrival => arrival.user = user) := by
  induction arrivals generalizing table other with
  | nil => rfl
  | cons arrival rest ih =>
    by_cases own : arrival.user = user
    · subst own
      obtain ⟨decision, next⟩ := grant_local limit span arrival.moment same
      simp only [serve, decide_true, List.filter_cons_of_pos, decision, ih next]
    · have kept : (table.grant limit span arrival.moment arrival.user).2.find? user =
          other.find? user := (grant_elsewhere (Ne.symm own)).trans same
      simp only [serve, own, decide_false, Bool.false_eq_true, not_false_eq_true,
        List.filter_cons_of_neg, ih kept]

/-! ### One window -/

/-- How the requests of a window that holds `count` already are decided. -/
def verdicts (limit count : Int) (length : Nat) : List Bool :=
  (List.range length).map fun place : Nat => decide (count + (place : Int) < limit)

private theorem verdicts_succ {count : Int} {length : Nat} :
    verdicts limit count (length + 1) =
      decide (count < limit) :: verdicts limit (count + 1) length := by
  simp only [verdicts, List.range_succ_eq_map, List.map_cons, List.map_map]
  congr 1
  · simp
  · apply List.map_congr_left
    intro place _
    simp only [Function.comp, Nat.cast_succ, decide_eq_decide]
    omega

/-- Nothing more is admitted once the limit is reached. -/
theorem verdicts_full {count : Int} {length : Nat} (full : limit ≤ count) :
    verdicts limit (count + 1) length = verdicts limit count length := by
  apply List.map_congr_left
  intro place _
  have first : ¬ count + 1 + place < limit := by omega
  have second : ¬ count + place < limit := by omega
  simp only [first, second]

/-- A window holds its first request in any case. -/
theorem verdicts_opened {length : Nat} :
    verdicts (max 1 limit) 0 (length + 1) = true :: verdicts limit 1 length := by
  have opened : decide (0 < max 1 limit) = true := decide_eq_true (by omega)
  rw [verdicts_succ, opened]
  congr 1
  apply List.map_congr_left
  intro place _
  simp only [decide_eq_decide]
  omega

private theorem count_verdicts (limit count : Int) (length : Nat) :
    (verdicts limit count length).count true ≤ (limit - count).toNat := by
  induction length generalizing count with
  | zero => exact Nat.zero_le _
  | succ length ih =>
    have rest := ih (count + 1)
    rw [verdicts_succ, List.count_cons]
    by_cases below : count < limit
    · simp only [below, decide_true, BEq.rfl, if_true]
      omega
    · simp only [below, decide_false]
      simp only [Bool.false_beq, Bool.not_true, Bool.false_eq_true, if_false]
      omega

/-- In a window, requests are admitted up to the limit. -/
theorem serve_inside {window : QuotaWindow τ} (arrivals : List (Arrival τ))
    (own : ∀ arrival ∈ arrivals, arrival.user = user)
    (inside : ∀ arrival ∈ arrivals, ¬ window.ends < arrival.moment)
    (found : table.find? user = some window) :
    (serve limit span table arrivals).map Prod.snd =
        verdicts limit window.count arrivals.length ∧
      ∃ count, (afterAll limit span table arrivals).find? user = some ⟨count, window.ends⟩ := by
  induction arrivals generalizing table window with
  | nil => exact ⟨rfl, window.count, found⟩
  | cons arrival rest ih =>
    have mine : arrival.user = user := own arrival List.mem_cons_self
    have late : ¬ window.ends < arrival.moment := inside arrival List.mem_cons_self
    have restOwn : ∀ arrival ∈ rest, arrival.user = user :=
      fun other member => own other (List.mem_cons_of_mem _ member)
    have restInside : ∀ arrival ∈ rest, ¬ window.ends < arrival.moment :=
      fun other member => inside other (List.mem_cons_of_mem _ member)
    have current : table.current? arrival.moment user = some window := by
      simp [current?, found, Option.filter, late]
    have granted := grant_inside limit span current
    rw [← mine] at granted
    simp only [serve, afterAll, List.foldl_cons, List.map_cons, List.length_cons, verdicts_succ,
      granted]
    by_cases full : limit ≤ window.count
    · obtain ⟨decided, count, after⟩ := ih restOwn restInside found
      have beyond : ¬ window.count < limit := not_lt.mpr full
      simp only [full, if_true, decided, beyond, decide_false, verdicts_full full]
      exact ⟨trivial, count, after⟩
    · have next : (table.put arrival.user { window with count := window.count + 1 }).find? user =
          some { window with count := window.count + 1 } := by
        simp [find?_put, mine]
      have nextInside : ∀ arrival ∈ rest,
          ¬ ({ window with count := window.count + 1 } : QuotaWindow τ).ends < arrival.moment :=
        restInside
      obtain ⟨decided, count, after⟩ := ih restOwn nextInside next
      have below : window.count < limit := not_le.mp full
      simp only [full, if_false, decided, below, decide_true]
      exact ⟨trivial, count, after⟩

private theorem serve_append (first second : List (Arrival τ)) :
    serve limit span table (first ++ second) =
      serve limit span table first ++
        serve limit span (afterAll limit span table first) second := by
  induction first generalizing table with
  | nil => rfl
  | cons arrival rest ih => simp only [List.cons_append, serve, ih, afterAll, List.foldl_cons]

private theorem serve_map_fst (limit : Int) (span : τ) (table : QuotaTable τ) (arrivals : List (Arrival τ)) :
    (serve limit span table arrivals).map Prod.fst = arrivals := by
  induction arrivals generalizing table with
  | nil => rfl
  | cons arrival rest ih => simp only [serve, List.map_cons, ih]

private theorem mem_serve {decision : Arrival τ × Bool} {arrivals : List (Arrival τ)}
    (member : decision ∈ serve limit span table arrivals) : decision.1 ∈ arrivals := by
  have moved := List.mem_map_of_mem (f := Prod.fst) member
  rwa [serve_map_fst] at moved

/-! ### All windows -/

variable [ExactScale τ]

/-- Decided requests of one user, as they fall into windows. A request that comes in no window opens
one; it holds the requests up to its end, and as many of them are admitted as come first. -/
inductive Windows (limit : Int) (span : τ) : List (Arrival τ × Bool) → Prop where
  | none : Windows limit span []
  | window {opening more rest}
      (inside : ∀ decision ∈ more, opening.1.moment ≤ decision.1.moment ∧
        decision.1.moment ≤ opening.1.moment + span)
      (after : ∀ decision ∈ rest, opening.1.moment + span < decision.1.moment)
      (verdicts : (opening :: more).map Prod.snd =
        verdicts (max 1 limit) 0 (more.length + 1))
      (next : Windows limit span rest) : Windows limit span (opening :: more ++ rest)

/-- What is left of ordered requests after those up to a moment lies after it. -/
theorem after_dropWhile {last : τ} {arrivals : List (Arrival τ)}
    (ordered : arrivals.Pairwise fun first second => first.moment ≤ second.moment) :
    ∀ arrival ∈ arrivals.dropWhile fun arrival => !decide (last < arrival.moment),
      last < arrival.moment := by
  induction arrivals with
  | nil => nofun
  | cons head rest ih =>
    obtain ⟨least, restOrdered⟩ := List.pairwise_cons.mp ordered
    by_cases beyond : last < head.moment
    · rw [List.dropWhile_cons_of_neg (by simp [beyond])]
      intro arrival member
      rcases List.mem_cons.mp member with rfl | later
      · exact beyond
      · have order := least arrival later
        rw [ExactScale.lt_iff] at beyond ⊢
        rw [ExactScale.le_iff] at order
        exact lt_of_lt_of_le beyond order
    · rw [List.dropWhile_cons_of_pos (by simp [beyond])]
      exact ih restOrdered

/-- The ordered requests of a user who is in no window fall into windows. -/
theorem windows_serve (user : Int) (arrivals : List (Arrival τ))
    (own : ∀ arrival ∈ arrivals, arrival.user = user)
    (ordered : arrivals.Pairwise fun first second => first.moment ≤ second.moment)
    (free : ∀ window, table.find? user = some window →
      ∀ arrival ∈ arrivals, window.ends < arrival.moment) :
    Windows limit span (serve limit span table arrivals) := by
  induction size_eq : arrivals.length using Nat.strong_induction_on generalizing arrivals table with
  | _ size ih =>
    cases arrivals with
    | nil => exact .none
    | cons head rest =>
      obtain ⟨least, restOrdered⟩ := List.pairwise_cons.mp ordered
      have mine : head.user = user := own head List.mem_cons_self
      have outside : table.current? head.moment user = none := by
        cases found : table.find? user with
        | none => simp [current?, found]
        | some window =>
          have ended := free window found head List.mem_cons_self
          simp [current?, found, Option.filter, ended]
      rw [← mine] at outside
      obtain ⟨more, beyond, parts, inside, after⟩ : ∃ more beyond, rest = more ++ beyond ∧
          (∀ arrival ∈ more, ¬ head.moment + span < arrival.moment) ∧
          (∀ arrival ∈ beyond, head.moment + span < arrival.moment) := by
        refine ⟨rest.takeWhile fun arrival => !decide (head.moment + span < arrival.moment),
          rest.dropWhile fun arrival => !decide (head.moment + span < arrival.moment),
          List.takeWhile_append_dropWhile.symm, ?_, after_dropWhile restOrdered⟩
        intro arrival member
        simpa using List.mem_takeWhile_imp member
      subst parts
      have moreOwn : ∀ arrival ∈ more, arrival.user = user := fun arrival member =>
        own arrival (List.mem_cons_of_mem _ (List.mem_append_left _ member))
      have opened : (table.put head.user ⟨1, head.moment + span⟩).find? user =
          some ⟨1, head.moment + span⟩ := by
        simp [find?_put, mine]
      obtain ⟨decided, count, closed⟩ := serve_inside more moreOwn inside opened
      simp only [serve, grant_opens outside, serve_append]
      refine .window ?_ ?_ ?_ ?_
      · intro decision member
        have early := inside decision.1 (mem_serve member)
        rw [ExactScale.lt_iff, not_lt] at early
        rw [ExactScale.le_iff decision.1.moment]
        exact ⟨least decision.1 (List.mem_append_left _ (mem_serve member)), early⟩
      · intro decision member
        exact after decision.1 (mem_serve member)
      · have length : (serve limit span (table.put head.user ⟨1, head.moment + span⟩) more).length =
            more.length := by
          simpa using congrArg List.length (serve_map_fst limit span _ more)
        rw [length, verdicts_opened, List.map_cons, decided]
      · have shorter : beyond.length < size := by
          rw [← size_eq, List.length_cons, List.length_append]
          omega
        refine ih beyond.length shorter beyond ?_ (List.pairwise_append.mp restOrdered).2.1 ?_ rfl
        · intro arrival member
          exact own arrival (List.mem_cons_of_mem _ (List.mem_append_right _ member))
        · intro window found arrival member
          obtain rfl := Option.some.inj (closed.symm.trans found)
          exact after arrival member

/-! ### Any span -/

/-- The requests admitted from one moment to another. -/
def admitted (first last : τ) (decisions : List (Arrival τ × Bool)) : Nat :=
  decisions.countP fun decision =>
    decision.2 && decide (first ≤ decision.1.moment) && decide (decision.1.moment ≤ last)

omit [ExactScale τ] in
private theorem admitted_le_count (first last : τ) (decisions : List (Arrival τ × Bool)) :
    admitted first last decisions ≤ (decisions.map Prod.snd).count true := by
  rw [List.count, List.countP_map]
  apply List.countP_mono_left
  intro decision _ counted
  simp only [Bool.and_eq_true] at counted
  simpa using counted.1.1

omit [ExactScale τ] in
private theorem admitted_eq_zero {first last : τ} {decisions : List (Arrival τ × Bool)}
    (outside : ∀ decision ∈ decisions, first ≤ decision.1.moment →
      ¬ decision.1.moment ≤ last) : admitted first last decisions = 0 := by
  apply List.countP_eq_zero.mpr
  intro decision member counted
  simp only [Bool.and_eq_true, decide_eq_true_eq] at counted
  exact outside decision member counted.1.2 counted.2

omit [ExactScale τ] in
/-- A window admits no more than it may. -/
theorem admitted_window (first last : τ) {opening : Arrival τ × Bool}
    {more : List (Arrival τ × Bool)}
    (decided : (opening :: more).map Prod.snd = verdicts (max 1 limit) 0 (more.length + 1)) :
    (admitted first last (opening :: more) : Int) ≤ max 1 limit := by
  have bound := admitted_le_count first last (opening :: more)
  rw [decided] at bound
  have most := count_verdicts (max 1 limit) 0 (more.length + 1)
  omega

omit [ExactScale τ] in
private theorem admitted_append {first last : τ} {before after : List (Arrival τ × Bool)} :
    admitted first last (before ++ after) = admitted first last before + admitted first last after :=
  List.countP_append

/-- Up to the end of a window, what comes after it does not count. -/
theorem admitted_early (first : τ) {last : τ} {opening : Arrival τ × Bool}
    {more rest : List (Arrival τ × Bool)}
    (after : ∀ decision ∈ rest, opening.1.moment + span < decision.1.moment)
    (decided : (opening :: more).map Prod.snd = verdicts (max 1 limit) 0 (more.length + 1))
    (early : last ≤ opening.1.moment + span) :
    (admitted first last (opening :: more ++ rest) : Int) ≤ max 1 limit := by
  have none : admitted first last rest = 0 := by
    apply admitted_eq_zero
    intro decision member _ inside
    have beyond := after decision member
    rw [ExactScale.lt_iff] at beyond
    rw [ExactScale.le_iff] at inside early
    linarith
  rw [admitted_append, none]
  simpa using admitted_window first last decided

/-- A span no longer than a window meets two windows at most. -/
theorem Windows.admitted_le {first last : τ} {decisions : List (Arrival τ × Bool)}
    (windows : Windows limit span decisions) (short : last - first ≤ span) :
    (admitted first last decisions : Int) ≤ 2 * max 1 limit := by
  induction windows with
  | none =>
    simp only [admitted, List.countP_nil]
    omega
  | @window opening more rest inside after decided next ih =>
    have own := admitted_window first last decided
    by_cases met : ∃ decision ∈ opening :: more,
        first ≤ decision.1.moment ∧ decision.1.moment ≤ last
    · obtain ⟨decision, member, late, early⟩ := met
      have others : (admitted first last rest : Int) ≤ max 1 limit := by
        cases next with
        | none =>
          simp only [admitted, List.countP_nil]
          omega
        | @window opening' more' rest' inside' after' decided' next' =>
          apply admitted_early first after' decided'
          have apart := after opening' (by simp)
          have here : decision.1.moment ≤ opening.1.moment + span := by
            rcases List.mem_cons.mp member with rfl | later
            · rw [ExactScale.le_iff] at late early short ⊢
              rw [ExactScale.value_sub] at short
              rw [ExactScale.value_add]
              linarith
            · exact (inside decision later).2
          rw [ExactScale.lt_iff] at apart
          rw [ExactScale.le_iff] at late short here ⊢
          rw [ExactScale.value_sub] at short
          rw [ExactScale.value_add opening'.1.moment]
          linarith
      rw [admitted_append]
      push_cast
      omega
    · have none : admitted first last (opening :: more) = 0 :=
        admitted_eq_zero fun decision member late early => met ⟨decision, member, late, early⟩
      rw [admitted_append, none]
      simpa using ih

/-! ### The quota -/

/-- What holds of the requests of one user among those of all. -/
structure Metered (limit : Int) (span : τ) (arrivals : List (Arrival τ)) (user : Int) : Prop where
  /-- The decisions are those that would be made without anybody else. -/
  alone : (serve limit span [] arrivals).filter (fun decision => decision.1.user = user) =
    serve limit span [] (arrivals.filter fun arrival => arrival.user = user)
  windows : Windows limit span
    ((serve limit span [] arrivals).filter fun decision => decision.1.user = user)
  /-- A request that is refused changes nothing. -/
  refused : ∀ (table : QuotaTable τ) now, (table.grant limit span now user).1 = false →
    (table.grant limit span now user).2 = table
  /-- No span of the length of a window sees more than twice the limit. -/
  bound : ∀ first last, last - first ≤ span →
    (admitted first last
      ((serve limit span [] arrivals).filter fun decision => decision.1.user = user) : Int) ≤
        2 * max 1 limit

/-- Requests that come one after the other are metered for every user. -/
theorem metered (limit : Int) (span : τ) {arrivals : List (Arrival τ)}
    (ordered : arrivals.Pairwise fun first second => first.moment ≤ second.moment) (user : Int) :
    Metered limit span arrivals user := by
  have alone : (serve limit span [] arrivals).filter (fun decision => decision.1.user = user) =
      serve limit span [] (arrivals.filter fun arrival => arrival.user = user) :=
    serve_alone arrivals rfl
  have windows : Windows limit span
      ((serve limit span [] arrivals).filter fun decision => decision.1.user = user) := by
    rw [alone]
    refine windows_serve user _ ?_ (ordered.sublist List.filter_sublist) ?_
    · intro arrival member
      simpa using (List.mem_filter.mp member).2
    · exact fun window found => nomatch found
  exact ⟨alone, windows, fun _ _ => grant_refused, fun _ _ => windows.admitted_le⟩

theorem metered_two_users :
    ([⟨0, 1⟩, ⟨1, 2⟩, ⟨60, 1⟩] : List (Arrival Int)).Pairwise
        (fun first second => first.moment ≤ second.moment) ∧
      Metered 1 60 ([⟨0, 1⟩, ⟨1, 2⟩, ⟨60, 1⟩] : List (Arrival Int)) 1 :=
  ⟨by decide, metered 1 60 (by decide) 1⟩

end QuotaTable

end MemoAssist

import MemoAssist.Proofs.Scope.Descent

/-! Cancellation as it is passed on from scope to scope. A scope knows the scopes opened in it that
it still has to tell; it tells each of them once, and one that is cancelled already tells nobody. This
comes to the same as cancelling everything that lies under it, because under a cancelled scope all are
cancelled. -/
namespace MemoAssist

variable {τ : Type}

/-- A scope and the children it has to tell of its end. -/
structure Kin (τ : Type) where
  deadline : Option τ
  cancelled : Bool
  children : List ScopeId

/-- All scopes ever opened, each under its number. -/
abbrev Family (τ : Type) := List (Kin τ)

namespace Family

def isCancelled (family : Family τ) (id : ScopeId) : Bool := (family[id]?).elim false Kin.cancelled

def deadline (family : Family τ) (id : ScopeId) : Option τ := (family[id]?).bind Kin.deadline

/-- Cancel scopes one after the other, the children of each before the next. One that is cancelled
already is passed over; any other forgets its children. -/
def cancelAll (family : Family τ) (ids : List ScopeId) : Family τ :=
  match ids with
  | [] => family
  | id :: rest =>
    match _found : family[id]? with
    | none => cancelAll family rest
    | some kin =>
      if _fresh : kin.cancelled then cancelAll family rest
      else
        cancelAll (family.set id { kin with cancelled := true, children := [] }) (kin.children ++ rest)
termination_by (family.countP fun kin => !kin.cancelled, ids.length)
decreasing_by
  · exact Prod.Lex.right _ (Nat.lt_succ_self _)
  · exact Prod.Lex.right _ (Nat.lt_succ_self _)
  · apply Prod.Lex.left
    obtain ⟨inside, rfl⟩ := List.getElem?_eq_some_iff.mp _found
    have some : 0 < family.countP fun kin => !kin.cancelled :=
      List.countP_pos_iff.mpr ⟨_, List.getElem_mem inside, by simpa using _fresh⟩
    rw [List.countP_set inside]
    simp only [_fresh, Bool.not_false, Bool.not_true, if_true, Bool.false_eq_true, if_false]
    omega

def cancel (id : ScopeId) (family : Family τ) : Family τ := family.cancelAll [id]

/-- A scope takes in a child, or cancels it if it is cancelled itself. -/
def adopt (parent child : ScopeId) (family : Family τ) : Family τ :=
  match family[parent]? with
  | none => family
  | some kin =>
    if kin.cancelled then family.cancel child
    else family.set parent { kin with children := kin.children ++ [child] }

/-- Open a scope at a reading of the clock. -/
def insert [TimeScale τ] (now : τ) (timeout : Option τ) (parent : Option ScopeId)
    (family : Family τ) : Family τ :=
  let kin : Kin τ :=
    { deadline := Forest.tighter (timeout.map (now + ·)) (parent.bind family.deadline)
      cancelled := false
      children := [] }
  match parent with
  | none => family ++ [kin]
  | some above => adopt above family.length (family ++ [kin])

variable {family : Family τ} {forest : Forest τ} {id : ScopeId} {work : List ScopeId}
  {parent : ScopeId → Option ScopeId}

private theorem isCancelled_set (kin : Kin τ) (inside : id < family.length) (other : ScopeId) :
    isCancelled (family.set id kin) other =
      if other = id then kin.cancelled else family.isCancelled other := by
  unfold isCancelled
  split
  · next same => rw [same, List.getElem?_set_self inside]; rfl
  · next apart => rw [List.getElem?_set_ne (Ne.symm apart)]

private theorem deadline_set {kin : Kin τ} (same : family.deadline id = kin.deadline)
    (inside : id < family.length) (other : ScopeId) :
    deadline (family.set id kin) other = family.deadline other := by
  by_cases here : other = id
  · rw [here, same, deadline, List.getElem?_set_self inside]
    rfl
  · rw [deadline, List.getElem?_set_ne (Ne.symm here)]
    rfl

/-- Scopes on the way of being told: a scope that is not cancelled knows its children, and those of
one that is are cancelled or still to be told. -/
structure Telling (parent : ScopeId → Option ScopeId) (family : Family τ) (work : List ScopeId) :
    Prop where
  inside : ∀ child above, parent child = some above → child < family.length
  known : ∀ (id : ScopeId) (kin : Kin τ), family[id]? = some kin → kin.cancelled = false →
    ∀ child, child ∈ kin.children ↔ parent child = some id
  heeds : ∀ child above, parent child = some above → family.isCancelled above = true →
    family.isCancelled child = true ∨ child ∈ work

/-- Where telling leads to. -/
structure Told (parent : ScopeId → Option ScopeId) (family : Family τ) (work : List ScopeId)
    (after : Family τ) : Prop where
  length : after.length = family.length
  settled : Telling parent after []
  deadline : ∀ id, after.deadline id = family.deadline id
  stays : ∀ id, family.isCancelled id = true → after.isCancelled id = true
  reached : ∀ id ∈ work, after.isCancelled id = true
  only : ∀ id, after.isCancelled id = true →
    family.isCancelled id = true ∨ ∃ root ∈ work, Beneath parent root id

/-- One that is cancelled already need not be told. -/
theorem Telling.skip (telling : Telling parent family (id :: work))
    (cancelled : family.isCancelled id = true) : Telling parent family work where
  inside := telling.inside
  known := telling.known
  heeds child above opened marked := by
    rcases telling.heeds child above opened marked with done | member
    · exact .inl done
    · rcases List.mem_cons.mp member with rfl | later
      · exact .inl cancelled
      · exact .inr later

theorem Told.skip {after : Family τ} (told : Told parent family work after)
    (cancelled : family.isCancelled id = true) : Told parent family (id :: work) after where
  length := told.length
  settled := told.settled
  deadline := told.deadline
  stays := told.stays
  reached other member := by
    rcases List.mem_cons.mp member with rfl | later
    · exact told.stays _ cancelled
    · exact told.reached other later
  only other marked := by
    rcases told.only other marked with before | ⟨root, member, beneath⟩
    · exact .inl before
    · exact .inr ⟨root, List.mem_cons_of_mem _ member, beneath⟩

section

variable {kin : Kin τ} (found : family[id]? = some kin) (fresh : kin.cancelled = false)
include found fresh

/-- One that is told hands its children on. -/
theorem Telling.next (telling : Telling parent family (id :: work)) :
    Telling parent (family.set id { kin with cancelled := true, children := [] })
      (kin.children ++ work) where
  inside child above opened := by
    rw [List.length_set]
    exact telling.inside child above opened
  known other kin' found' fresh' := by
    by_cases same : other = id
    · rw [same, List.getElem?_set_self (List.getElem?_eq_some_iff.mp found).1] at found'
      obtain rfl := Option.some.inj found'
      cases fresh'
    · rw [List.getElem?_set_ne (Ne.symm same)] at found'
      exact telling.known other kin' found' fresh'
  heeds child above opened marked := by
    have inside := (List.getElem?_eq_some_iff.mp found).1
    rw [isCancelled_set _ inside] at marked ⊢
    by_cases same : above = id
    · have own : child ∈ kin.children := (telling.known id kin found fresh child).mpr (same ▸ opened)
      exact .inr (List.mem_append_left _ own)
    · rw [if_neg same] at marked
      rcases telling.heeds child above opened marked with done | member
      · left
        split
        · rfl
        · exact done
      · rcases List.mem_cons.mp member with rfl | later
        · exact .inl (if_pos rfl)
        · exact .inr (List.mem_append_right _ later)

theorem Told.next {after : Family τ} (telling : Telling parent family (id :: work))
    (told : Told parent (family.set id { kin with cancelled := true, children := [] })
      (kin.children ++ work) after) : Told parent family (id :: work) after := by
  have inside := (List.getElem?_eq_some_iff.mp found).1
  have flag (other : ScopeId) :=
    isCancelled_set { kin with cancelled := true, children := [] } inside other
  have self : after.isCancelled id = true := told.stays id (by rw [flag, if_pos rfl])
  refine ⟨told.length.trans List.length_set, told.settled, ?_, ?_, ?_, ?_⟩
  · intro other
    have same : family.deadline id =
        ({ kin with cancelled := true, children := [] } : Kin τ).deadline := by
      rw [Family.deadline, found]
      rfl
    exact (told.deadline other).trans (deadline_set same inside other)
  · intro other marked
    by_cases same : other = id
    · exact same ▸ self
    · exact told.stays other (by rw [flag, if_neg same]; exact marked)
  · intro other member
    rcases List.mem_cons.mp member with rfl | later
    · exact self
    · exact told.reached other (List.mem_append_right _ later)
  · intro other marked
    rcases told.only other marked with before | ⟨root, member, beneath⟩
    · rw [flag] at before
      split at before
      · next same => exact .inr ⟨id, List.mem_cons_self, same ▸ .self⟩
      · exact .inl before
    · rcases List.mem_append.mp member with child | later
      · have opened : parent root = some id := (telling.known id kin found fresh root).mp child
        have upper : Beneath parent id root := .inside opened .self
        exact .inr ⟨id, List.mem_cons_self, upper.trans beneath⟩
      · exact .inr ⟨root, List.mem_cons_of_mem _ later, beneath⟩

end

/-- Telling everybody who is to be told settles the family. -/
theorem Telling.cancelAll (telling : Telling parent family work)
    (inside : ∀ id ∈ work, id < family.length) :
    Told parent family work (family.cancelAll work) := by
  fun_induction Family.cancelAll family work with
  | case1 family =>
    exact ⟨rfl, telling, fun _ => rfl, fun _ marked => marked, nofun, fun _ marked => .inl marked⟩
  | case2 family id rest missing ih =>
    have beyond := List.getElem?_eq_none_iff.mp missing
    exact absurd (inside id List.mem_cons_self) (Nat.not_lt.mpr beyond)
  | case3 family id rest kin found cancelled ih =>
    have marked : family.isCancelled id = true := by rw [isCancelled, found]; exact cancelled
    have later : ∀ id ∈ rest, id < family.length :=
      fun other member => inside other (List.mem_cons_of_mem _ member)
    exact (ih (telling.skip marked) later).skip marked
  | case4 family id rest kin found fresh ih =>
    have unmarked : kin.cancelled = false := by simpa using fresh
    have later : ∀ other ∈ kin.children ++ rest,
        other < (family.set id { kin with cancelled := true, children := [] }).length := by
      intro other member
      rw [List.length_set]
      rcases List.mem_append.mp member with child | old
      · exact telling.inside other id ((telling.known id kin found unmarked other).mp child)
      · exact inside other (List.mem_cons_of_mem _ old)
    exact (ih (telling.next found unmarked) later).next found unmarked telling

theorem Telling.beneath {root : ScopeId} (settled : Telling parent family [])
    (marked : family.isCancelled root = true) (beneath : Beneath parent root id) :
    family.isCancelled id = true := by
  induction beneath with
  | self => exact marked
  | @inside child above opened _ ih =>
    rcases settled.heeds child above opened ih with done | nobody
    · exact done
    · cases nobody

/-! ### Opening -/

variable {above : Option ScopeId}

/-- A new scope stands behind the others, of whom only its parent takes note. -/
structure Opened (family : Family τ) (deadline : Option τ) (above : Option ScopeId)
    (before : Family τ) (after : Family τ) : Prop where
  behind : after = before ++ [⟨deadline, above.elim false family.isCancelled, []⟩]
  length : before.length = family.length
  deadline : ∀ id, before.deadline id = family.deadline id
  cancelled : ∀ id, before.isCancelled id = family.isCancelled id
  noted : ∀ (id : ScopeId) (kin : Kin τ), before[id]? = some kin → kin.cancelled = false →
    ∃ kin' : Kin τ, family[id]? = some kin' ∧ kin'.cancelled = false ∧
      ∀ child, child ∈ kin.children ↔
        child ∈ kin'.children ∨ child = family.length ∧ above = some id

private theorem opened_unnoted {deadline : Option τ} (unnoted : ∀ id, above = some id →
      family.isCancelled id = true) :
    Opened family deadline above family
      (family ++ [⟨deadline, above.elim false family.isCancelled, []⟩]) where
  behind := rfl
  length := rfl
  deadline _ := rfl
  cancelled _ := rfl
  noted id kin found fresh := by
    refine ⟨kin, found, fresh, fun child => ⟨.inl, ?_⟩⟩
    rintro (own | ⟨-, under⟩)
    · exact own
    · have marked := unnoted id under
      rw [isCancelled, found] at marked
      exact absurd (marked.symm.trans fresh) (by decide)

private theorem opened_noted {deadline : Option τ} {parent : ScopeId} {kin : Kin τ}
    (found : family[parent]? = some kin) (fresh : kin.cancelled = false) :
    Opened family deadline (some parent)
      (family.set parent { kin with children := kin.children ++ [family.length] })
      (family.set parent { kin with children := kin.children ++ [family.length] } ++
        [⟨deadline, false, []⟩]) where
  behind := by
    have flag : family.isCancelled parent = false := by rw [isCancelled, found]; exact fresh
    rw [Option.elim_some, flag]
  length := List.length_set
  deadline := by
    have same : family.deadline parent =
        ({ kin with children := kin.children ++ [family.length] } : Kin τ).deadline := by
      rw [Family.deadline, found]
      rfl
    exact deadline_set same (List.getElem?_eq_some_iff.mp found).1
  cancelled id := by
    rw [isCancelled_set _ (List.getElem?_eq_some_iff.mp found).1]
    split
    · next same => rw [same, isCancelled, found]; rfl
    · rfl
  noted id kin' found' fresh' := by
    by_cases same : id = parent
    · subst same
      rw [List.getElem?_set_self (List.getElem?_eq_some_iff.mp found).1] at found'
      obtain rfl := Option.some.inj found'
      exact ⟨kin, found, fresh, fun child => by simp⟩
    · rw [List.getElem?_set_ne (Ne.symm same)] at found'
      refine ⟨kin', found', fresh', fun child => ⟨.inl, ?_⟩⟩
      rintro (own | ⟨-, under⟩)
      · exact own
      · exact absurd (Option.some.inj under).symm same

/-- A scope without children is cancelled on its own. -/
theorem cancel_last {deadline : Option τ} (family : Family τ) :
    cancel family.length (family ++ [⟨deadline, false, []⟩]) = family ++ [⟨deadline, true, []⟩] := by
  have found : (family ++ [(⟨deadline, false, []⟩ : Kin τ)])[family.length]? =
      some ⟨deadline, false, []⟩ := List.getElem?_concat_length
  rw [cancel, cancelAll]
  split
  · next missing => rw [found] at missing; cases missing
  · next kin here =>
    obtain rfl := Option.some.inj (found.symm.trans here)
    rw [dif_neg Bool.false_ne_true, List.append_nil, cancelAll,
      List.set_append_right _ _ (Nat.le_refl _), Nat.sub_self]
    rfl

private theorem opened_insert [TimeScale τ] {now : τ} {timeout : Option τ}
    (older : ∀ parent, above = some parent → parent < family.length) :
    ∃ before, Opened family
      (Forest.tighter (timeout.map (now + ·)) (above.bind family.deadline)) above before
        (family.insert now timeout above) := by
  cases above with
  | none => exact ⟨family, opened_unnoted nofun⟩
  | some parent =>
    have inside := older parent rfl
    have found : family[parent]? = some family[parent] := List.getElem?_eq_getElem inside
    have found' (last : Kin τ) : (family ++ [last])[parent]? = some family[parent] := by
      rw [List.getElem?_append_left inside, found]
    simp only [insert, adopt, found']
    split
    · next marked =>
      have flag : family.isCancelled parent = true := by rw [isCancelled, found]; exact marked
      have unnoted : ∀ id, some parent = some id → family.isCancelled id = true :=
        fun id same => Option.some.inj same ▸ flag
      rw [cancel_last, show true = (some parent).elim false family.isCancelled from flag.symm]
      exact ⟨family, opened_unnoted unnoted⟩
    · next unmarked =>
      rw [List.set_append_left _ _ inside]
      exact ⟨_, opened_noted found (by simpa using unmarked)⟩

section

variable {deadline : Option τ} {before after : Family τ}
  (opened : Opened family deadline above before after)
include opened

private theorem Opened.length_after : after.length = family.length + 1 := by
  rw [opened.behind, List.length_append, opened.length]
  rfl

private theorem Opened.deadline_after :
    after.deadline id = if id = family.length then deadline else family.deadline id := by
  rw [Family.deadline, opened.behind, getElem?_concat, opened.length]
  split
  · rfl
  · exact opened.deadline id

private theorem Opened.isCancelled_after : after.isCancelled id =
    if id = family.length then above.elim false family.isCancelled else family.isCancelled id := by
  rw [isCancelled, opened.behind, getElem?_concat, opened.length]
  split
  · rfl
  · exact opened.cancelled id

/-- Nobody is left to be told after a scope was opened, if nobody was before. -/
theorem Opened.settled {parent' : ScopeId → Option ScopeId} (settled : Telling parent family [])
    (grown : ∀ child, parent' child = if child = family.length then above else parent child)
    (older : ∀ parent, above = some parent → parent < family.length)
    (known : ∀ child elder, parent child = some elder → elder < family.length) :
    Telling parent' after [] where
  inside child elder under := by
    rw [opened.length_after]
    rw [grown] at under
    split at under
    · next new => exact new ▸ Nat.lt_succ_self _
    · exact Nat.lt_succ_of_lt (settled.inside child elder under)
  known id kin found fresh child := by
    rw [opened.behind, getElem?_concat, opened.length] at found
    rw [grown]
    split at found
    · next new =>
      obtain rfl := Option.some.inj found
      refine iff_of_false List.not_mem_nil fun under => ?_
      split at under
      · exact Nat.ne_of_lt (older id under) new
      · exact Nat.ne_of_lt (known child id under) new
    · obtain ⟨kin', found', fresh', noted⟩ := opened.noted id kin found fresh
      rw [noted, settled.known id kin' found' fresh']
      split
      · next new =>
        have nobody : ¬ parent child = some id := fun under =>
          Nat.ne_of_lt (settled.inside child id under) new
        exact ⟨fun either => either.elim (absurd · nobody) And.right, fun own => .inr ⟨new, own⟩⟩
      · next old => simp [old]
  heeds child elder under marked := by
    rw [grown] at under
    left
    rw [opened.isCancelled_after] at marked ⊢
    split at under
    · next new =>
      rw [if_neg (Nat.ne_of_lt (older elder under))] at marked
      rw [if_pos new, under]
      exact marked
    · next old =>
      rw [if_neg (Nat.ne_of_lt (known child elder under))] at marked
      rw [if_neg old]
      exact (settled.heeds child elder under marked).resolve_right List.not_mem_nil

end

/-! ### The family and the forest -/

/-- The family and the forest agree on who is cancelled and on deadlines, and everybody is told. -/
structure Depicts (family : Family τ) (forest : Forest τ) : Prop where
  length : family.length = forest.length
  deadline : ∀ id, family.deadline id = forest.deadline id
  cancelled : ∀ id, family.isCancelled id = forest.isCancelled id
  settled : Telling forest.parentOf family []

theorem depicts_start : Depicts ([] : Family τ) [] :=
  ⟨rfl, fun _ => rfl, fun _ => rfl, nofun, nofun, nofun⟩

theorem lt_length_of_isCancelled (cancelled : family.isCancelled id = true) : id < family.length := by
  rcases Nat.lt_or_ge id family.length with inside | beyond
  · exact inside
  · rw [isCancelled, List.getElem?_eq_none beyond] at cancelled
    cases cancelled

theorem Depicts.cancel (depicts : Depicts family forest) (ordered : forest.Ordered)
    (inside : id < forest.length) : Depicts (family.cancel id) (forest.cancel id) := by
  have telling : Telling forest.parentOf family [id] :=
    ⟨depicts.settled.inside, depicts.settled.known, fun child above opened marked =>
      .inl ((depicts.settled.heeds child above opened marked).resolve_right List.not_mem_nil)⟩
  have told := telling.cancelAll (by simpa [depicts.length] using inside)
  have self := told.reached id List.mem_cons_self
  refine ⟨?_, ?_, ?_, ?_⟩
  · rw [Forest.length_cancel, ← depicts.length]
    exact told.length
  · intro other
    rw [Forest.deadline_cancel, ← depicts.deadline]
    exact told.deadline other
  · intro other
    apply Bool.eq_iff_iff.mpr
    constructor
    · intro marked
      have within : other < forest.length := by
        rw [← depicts.length, ← told.length]
        exact lt_length_of_isCancelled marked
      rw [Forest.isCancelled_cancel_iff ordered within, ← depicts.cancelled]
      rcases told.only other marked with before | ⟨root, member, beneath⟩
      · exact .inl before
      · exact .inr (List.mem_singleton.mp member ▸ beneath)
    · intro marked
      rcases Forest.beneath_of_cancel marked with before | beneath
      · exact told.stays other (depicts.cancelled other ▸ before)
      · exact told.settled.beneath self beneath
  · rw [Forest.parentOf_cancel]
    exact told.settled

theorem Depicts.insert [TimeScale τ] {now : τ} {timeout : Option τ}
    (depicts : Depicts family forest) (ordered : forest.Ordered)
    (older : ∀ parent, above = some parent → parent < forest.length) :
    Depicts (family.insert now timeout above) (forest.insert now timeout above).2 := by
  have limits : family.deadline = forest.deadline := funext depicts.deadline
  have flags : family.isCancelled = forest.isCancelled := funext depicts.cancelled
  have older : ∀ parent, above = some parent → parent < family.length := depicts.length ▸ older
  obtain ⟨before, opened⟩ : ∃ before, Opened family
      (Forest.tighter (timeout.map (now + ·)) (above.bind family.deadline)) above before
        (family.insert now timeout above) := opened_insert older
  refine ⟨?_, fun id => ?_, fun id => ?_, ?_⟩
  · rw [opened.length_after, depicts.length]
    simp [Forest.insert]
  · rw [opened.deadline_after, Forest.deadline_insert, limits, depicts.length]
  · rw [opened.isCancelled_after, Forest.isCancelled_insert, flags, depicts.length]
  · refine opened.settled depicts.settled (fun child => ?_) older fun child parent under => ?_
    · rw [Forest.parentOf_insert, depicts.length]
    · rw [depicts.length]
      exact Nat.lt_trans (ordered child parent under) (Forest.lt_length_of_parentOf under)

end Family

end MemoAssist

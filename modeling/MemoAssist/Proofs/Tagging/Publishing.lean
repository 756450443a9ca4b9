import MemoAssist.Proofs.Tagging.Single

/-! What comes before a job is published, and what never is. Whatever is published was accepted and
asked for; and an id under which nothing will be done any more, and was never asked for, is never
published. -/
namespace MemoAssist

/-- Is the job out of the queue? -/
def Hold.dequeued : Hold → Bool
  | .taken _ | .begun _ | .asked _ => true
  | _ => false

namespace Ledger

variable {l l' : Ledger} {limit : Int} {x y : Holder} {id other : String} {h : Hold}

/-- A hand has what was put into it, and the others have what they had. -/
theorem hold_put {new : Option Hold} (holds : (l.put x new).hold y = some h) :
    y = x ∧ new = some h ∨ y ≠ x ∧ l.hold y = some h := by
  by_cases same : y = x
  · subst same
    exact .inl ⟨rfl, by simpa using holds⟩
  · exact .inr ⟨same, by simpa [same] using holds⟩

/-! ### Before a job is published -/

/-- What is queued was accepted, and so was whatever is out of the queue, up to the end. -/
structure Chained (l : Ledger) : Prop where
  queued : ∀ id ∈ l.board.queue, id ∈ l.accepted
  held : ∀ x h, l.hold x = some h → h.dequeued = true → h.id ∈ l.accepted
  asked : ∀ x job, l.hold x = some (.asked job) → job.id ∈ l.asked
  published : ∀ id outcome, (id, outcome) ∈ l.published → id ∈ l.accepted ∧ id ∈ l.asked

private theorem blank_chained : blank.Chained where
  queued _ member := (List.not_mem_nil member).elim
  held _ _ holds := nomatch holds
  asked _ _ holds := nomatch holds
  published _ _ member := (List.not_mem_nil member).elim

private theorem Handling.accepted_grows (handling : Handling limit x id l l')
    (member : other ∈ l.accepted) : other ∈ l'.accepted := by
  cases handling with
  | accept => exact List.mem_append_left _ member
  | _ => exact member

private theorem Handling.asked_grows (handling : Handling limit x id l l') (member : other ∈ l.asked) :
    other ∈ l'.asked := by
  cases handling with
  | ask => exact List.mem_append_left _ member
  | _ => exact member

/-- Whoever has a job in hand that is out of the queue took it from there, or had it before. -/
theorem Handling.dequeued (handling : Handling limit x id l l') (chained : l.Chained)
    (holds : l'.hold y = some h) (out : h.dequeued = true) : h.id ∈ l.accepted := by
  have old {new : Option Hold} (held : (l.put x new).hold y = some h)
      (own : new = some h → h.id ∈ l.accepted) : h.id ∈ l.accepted := by
    rcases hold_put held with ⟨-, same⟩ | ⟨-, before⟩
    · exact own same
    · exact chained.held y h before out
  cases handling with
  | name | record =>
    refine old holds ?_
    rintro ⟨⟩
    cases out
  | drop | accept | withdraw | lose | finish | abandon => exact old holds nofun
  | @take _ _ _ queue empty next =>
    refine old holds ?_
    rintro ⟨⟩
    exact chained.queued id (next ▸ List.mem_cons_self)
  | @begin _ w _ job has found =>
    refine old holds ?_
    rintro ⟨⟩
    have named : job.id = id := JobBoard.find?_id found
    change job.id ∈ l.accepted
    rw [named]
    exact chained.held _ _ has rfl
  | @ask _ _ job has =>
    refine old holds ?_
    rintro ⟨⟩
    exact chained.held _ (.begun job) has rfl

theorem Handling.chained (handling : Handling limit x id l l') (chained : l.Chained) :
    l'.Chained where
  queued other member := by
    cases handling with
    | accept =>
      rcases List.mem_append.mp member with earlier | now
      · exact List.mem_append_left _ (chained.queued other earlier)
      · exact List.mem_append_right _ now
    | take _ next => exact chained.queued other (next ▸ List.mem_cons_of_mem _ member)
    | _ => exact chained.queued other member
  held y h holds out := handling.accepted_grows (handling.dequeued chained holds out)
  asked y job holds := by
    cases handling with
    | ask =>
      rcases hold_put holds with ⟨-, same⟩ | ⟨-, before⟩
      · cases same
        exact List.mem_append_right _ (List.mem_singleton_self _)
      · exact List.mem_append_left _ (chained.asked y job before)
    | name | drop | record | accept | withdraw | take | begin | lose | finish | abandon =>
      rcases hold_put holds with ⟨-, same⟩ | ⟨-, before⟩
      · cases same
      · exact chained.asked y job before
  published other outcome member := by
    have earlier (before : (other, outcome) ∈ l.published) :
        other ∈ l'.accepted ∧ other ∈ l'.asked := by
      obtain ⟨accepted, asked⟩ := chained.published other outcome before
      exact ⟨handling.accepted_grows accepted, handling.asked_grows asked⟩
    cases handling with
    | @finish _ _ job _ _ holds =>
      rcases List.mem_append.mp member with before | now
      · exact earlier before
      · obtain ⟨rfl, -⟩ := Prod.mk.inj (List.mem_singleton.mp now)
        exact ⟨chained.held _ _ holds rfl, chained.asked _ _ holds⟩
    | _ => exact earlier member

theorem Step.chained (step : Step limit l l') (chained : l.Chained) : l'.Chained := by
  cases step with
  | still => exact chained
  | draw | expire => exact ⟨chained.queued, chained.held, chained.asked, chained.published⟩
  | handle handling => exact handling.chained chained

theorem Run.chained (run : Run limit blank l) : l.Chained := by
  induction run with
  | refl => exact blank_chained
  | tail _ step ih => exact step.chained ih

/-! ### What is never published -/

/-- Nothing will be done under an id any more, and the backend was never asked for it. -/
structure Spent (l : Ledger) (id : String) : Prop where
  settled : l.Settled id
  unasked : id ∉ l.asked

theorem Step.spent (step : Step limit l l') (sound : l.Sound limit) (distinct : l'.drawn.Nodup)
    (spent : l.Spent id) : l'.Spent id := by
  refine ⟨(step.settled sound distinct spent.settled).1, ?_⟩
  cases step with
  | still | draw | expire => exact spent.unasked
  | @handle _ x handled handling =>
    by_cases same : id = handled
    · exact absurd (same ▸ spent.settled) (handling.unsettled distinct)
    · exact fun member => spent.unasked (((handling.touches sound.place).asked id same).mp member)

/-- An id that was just drawn, for a job that nobody will record. -/
theorem Sound.spent_of_drawn (sound : l.Sound limit) (new : id ∉ l.drawn) :
    Spent { l with drawn := l.drawn ++ [id] } id := by
  obtain ⟨unknown, free, unasked⟩ := sound.undrawn id new
  have out : id ∉ l.board.queue := by
    intro queued
    obtain ⟨job, found, -⟩ := sound.found_of_queued queued
    rw [unknown] at found
    cases found
  exact ⟨⟨List.mem_append_right _ (List.mem_singleton_self _), free, out⟩, unasked⟩

theorem Chained.unpublished (chained : l.Chained) (spent : l.Spent id)
    (outcome : Except Fault SuggestTagsResponse) : (id, outcome) ∉ l.published :=
  fun member => spent.unasked (chained.published id outcome member).2

end Ledger

end MemoAssist

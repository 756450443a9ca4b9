import MemoAssist.Tagging.Jobs
import Mathlib.Data.List.Nodup

namespace MemoAssist.JobBoard

variable {b : JobBoard} {job : TagJob} {id other : String}

def ids (b : JobBoard) : List String := b.jobs.map TagJob.id

theorem find?_id (found : b.find? id = some job) : job.id = id := by
  simpa using List.find?_some found

theorem find?_mem (found : b.find? id = some job) : job ∈ b.jobs := List.mem_of_find?_eq_some found

theorem find?_eq_none : b.find? id = none ↔ id ∉ b.ids := by
  simp only [find?, ids, List.find?_eq_none, List.mem_map, not_exists, not_and, decide_eq_true_eq]

private theorem find?_isSome (member : id ∈ b.ids) : ∃ job, b.find? id = some job := by
  cases found : b.find? id with
  | some job => exact ⟨job, rfl⟩
  | none => exact absurd member (find?_eq_none.mp found)

/-- Where the ids are distinct, a job is found under its own. -/
theorem find?_of_mem (distinct : b.ids.Nodup) (member : job ∈ b.jobs) :
    b.find? job.id = some job := by
  obtain ⟨found, here⟩ := find?_isSome (List.mem_map_of_mem member)
  have same : found = job :=
    List.inj_on_of_nodup_map distinct (find?_mem here) member (find?_id here)
  rwa [same] at here

/-! ### Recording -/

private theorem find?_put (jobs : List TagJob) :
    (put job jobs).find? (fun other => other.id = id) =
      if id = job.id then some job else jobs.find? (fun other => other.id = id) := by
  induction jobs with
  | nil =>
    by_cases same : id = job.id
    · simp [put, same]
    · simp [put, same, Ne.symm same]
  | cons head rest ih =>
    by_cases place : head.id = job.id
    · by_cases same : id = job.id
      · simp [put, place, same]
      · simp [put, place, same, Ne.symm same]
    · by_cases here : head.id = id
      · have apart : id ≠ job.id := fun same => place (here.trans same)
        simp [put, here, apart]
      · simp [put, place, here, ih]

@[simp] theorem find?_record :
    (b.record job).find? id = if id = job.id then some job else b.find? id := find?_put b.jobs

@[simp] theorem queue_record : (b.record job).queue = b.queue := rfl

private theorem map_id_put (jobs : List TagJob) (fresh : job.id ∉ jobs.map TagJob.id) :
    (put job jobs).map TagJob.id = jobs.map TagJob.id ++ [job.id] := by
  induction jobs with
  | nil => rfl
  | cons head rest ih =>
    have apart : head.id ≠ job.id := fun same => fresh (by simp [same])
    have later : job.id ∉ rest.map TagJob.id := fun member => fresh (List.mem_cons_of_mem _ member)
    simp [put, apart, ih later]

theorem ids_record (fresh : b.find? job.id = none) : (b.record job).ids = b.ids ++ [job.id] :=
  map_id_put b.jobs (find?_eq_none.mp fresh)

private theorem mem_put {new : TagJob} (jobs : List TagJob) (member : job ∈ put new jobs) :
    job = new ∨ job ∈ jobs := by
  induction jobs with
  | nil => exact .inl (List.mem_singleton.mp member)
  | cons head rest ih =>
    simp only [put] at member
    split at member
    · exact (List.mem_cons.mp member).imp_right (List.mem_cons_of_mem _)
    · rcases List.mem_cons.mp member with rfl | later
      · exact .inr List.mem_cons_self
      · exact (ih later).imp_right (List.mem_cons_of_mem _)

theorem mem_record {new : TagJob} (member : job ∈ (b.record new).jobs) :
    job = new ∨ job ∈ b.jobs := mem_put b.jobs member

/-! ### Changing -/

private theorem find?_map (f : TagJob → TagJob) (same : ∀ job, job.id = other → (f job).id = other)
    (jobs : List TagJob) :
    (jobs.map fun job => if job.id = other then f job else job).find? (fun job => job.id = id) =
      if id = other then (jobs.find? fun job => job.id = other).map f
      else jobs.find? (fun job => job.id = id) := by
  induction jobs with
  | nil => simp
  | cons head rest ih =>
    by_cases place : head.id = other
    · have kept := same head place
      by_cases here : id = other
      · subst here
        simp [place, kept]
      · have apart : ¬ other = id := fun turned => here turned.symm
        simpa [place, kept, here, apart] using ih
    · by_cases here : head.id = id
      · have apart : id ≠ other := fun turned => place (here.trans turned)
        simp [here, apart]
      · simpa [place, here] using ih

theorem find?_change {f : TagJob → TagJob} (same : ∀ job, job.id = other → (f job).id = other) :
    (b.change other f).find? id =
      if id = other then (b.find? other).map f else b.find? id := find?_map f same b.jobs

theorem mem_change {f : TagJob → TagJob} (member : job ∈ (b.change id f).jobs) :
    (∃ old ∈ b.jobs, old.id = id ∧ job = f old) ∨ job.id ≠ id ∧ job ∈ b.jobs := by
  obtain ⟨old, listed, rfl⟩ := List.mem_map.mp member
  by_cases here : old.id = id
  · exact .inl ⟨old, listed, here, if_pos here⟩
  · rw [if_neg here]
    exact .inr ⟨here, listed⟩

@[simp] theorem queue_change {f : TagJob → TagJob} : (b.change id f).queue = b.queue := rfl

theorem ids_change {f : TagJob → TagJob} (same : ∀ job, job.id = other → (f job).id = other) :
    (b.change other f).ids = b.ids := by
  simp only [ids, change, List.map_map]
  apply List.map_congr_left
  intro job _
  by_cases here : job.id = other
  · simp [here, same job here]
  · simp [here]

/-! ### Withdrawing and forgetting -/

@[simp] theorem find?_withdraw :
    (b.withdraw other).find? id = if id = other then none else b.find? id := by
  simp only [find?, withdraw, List.find?_filter]
  by_cases here : id = other
  · subst here
    simp
  · simp only [here, if_false]
    congr 1
    funext job
    by_cases place : job.id = id
    · simp [place, here]
    · simp [place]

@[simp] theorem queue_withdraw : (b.withdraw id).queue = b.queue := rfl

theorem ids_withdraw : (b.withdraw id).ids.Sublist b.ids := List.filter_sublist.map TagJob.id

@[simp] theorem queue_expire {cutoff : Instant} : (b.expire cutoff).2.queue = b.queue := rfl

theorem ids_expire {cutoff : Instant} : (b.expire cutoff).2.ids.Sublist b.ids :=
  List.filter_sublist.map TagJob.id

/-- Where the ids are distinct, a job is forgotten exactly when it is found and has expired. -/
theorem find?_expire {cutoff : Instant} (distinct : b.ids.Nodup) :
    (b.expire cutoff).2.find? id = (b.find? id).filter fun job => !isExpired cutoff job := by
  have kept : (b.expire cutoff).2.ids.Nodup := distinct.sublist ids_expire
  cases found : b.find? id with
  | none =>
    have absent : id ∉ (b.expire cutoff).2.ids :=
      fun member => find?_eq_none.mp found (ids_expire.subset member)
    simpa using find?_eq_none.mpr absent
  | some job =>
    by_cases gone : isExpired cutoff job
    · simp only [Option.filter, gone, Bool.not_true, Bool.false_eq_true, if_false]
      cases still : (b.expire cutoff).2.find? id with
      | none => rfl
      | some found' =>
        obtain ⟨member, fresh⟩ := List.mem_filter.mp (find?_mem still)
        have back := find?_of_mem distinct member
        rw [find?_id still, found] at back
        obtain rfl : job = found' := Option.some.inj back
        simp [gone] at fresh
    · have member : job ∈ (b.expire cutoff).2.jobs :=
        List.mem_filter.mpr ⟨find?_mem found, by simpa using gone⟩
      have here := find?_of_mem kept member
      rw [find?_id found] at here
      simpa [Option.filter, gone] using here

/-! ### The queue -/

@[simp] theorem find?_enqueue : (b.enqueue other).find? id = b.find? id := rfl

@[simp] theorem queue_enqueue : (b.enqueue id).queue = b.queue ++ [id] := rfl

end MemoAssist.JobBoard

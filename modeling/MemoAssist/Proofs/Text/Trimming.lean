import MemoAssist.Text.Lines
import Mathlib.Data.List.DropRight

namespace MemoAssist.Text

/-- Neither end of the text is accepted. -/
@[mk_iff]
structure Solid (p : Char → Bool) (t : List Char) : Prop where
  starts : ∀ c ∈ t.head?, p c = false
  ends : ∀ c ∈ t.getLast?, p c = false

instance (p : Char → Bool) (t : List Char) : Decidable (Solid p t) :=
  decidable_of_iff (t.head?.all (! p ·) = true ∧ t.getLast?.all (! p ·) = true)
    (by simp [solid_iff, Option.all_eq_true])

/-- What is left of a text when all that is accepted is gone from both ends. -/
structure Trimmed (p : Char → Bool) (s t : List Char) : Prop where
  inside : ∃ before after, s = before ++ t ++ after ∧ (∀ c ∈ before, p c = true) ∧ ∀ c ∈ after, p c = true
  solid : Solid p t

variable {p : Char → Bool} {before s t after : List Char} {c : Char}

theorem dropEndWhile_eq_rdropWhile (p : Char → Bool) (s : List Char) :
    dropEndWhile p s = s.rdropWhile p := rfl

private theorem dropEndWhile_append (all : ∀ c ∈ after, p c = true) :
    dropEndWhile p (s ++ after) = dropEndWhile p s := by
  rw [dropEndWhile, List.reverse_append, List.dropWhile_append_of_pos (by simpa using all)]
  rfl

theorem trimWhere_prepend (all : ∀ c ∈ before, p c = true) :
    trimWhere p (before ++ s) = trimWhere p s := by
  rw [trimWhere, List.dropWhile_append_of_pos all]
  rfl

theorem trimWhere_append (all : ∀ c ∈ after, p c = true) :
    trimWhere p (s ++ after) = trimWhere p s := by
  rw [trimWhere, List.dropWhile_append]
  split
  · next nothing =>
    have gone : s.dropWhile p = [] := List.isEmpty_iff.mp nothing
    rw [List.dropWhile_eq_nil_iff.mpr all, trimWhere, gone]
  · exact dropEndWhile_append all

theorem trimWhere_cons_solid (solid : p c = false) : trimWhere p (c :: s) = dropEndWhile p (c :: s) := by
  rw [trimWhere, List.dropWhile_cons_of_neg (by simp [solid])]

/-- Nothing is taken away that stands before a character that is not accepted. -/
theorem dropEndWhile_behind (solid : p c = false) (before : List Char) :
    dropEndWhile p (before ++ c :: s) = before ++ dropEndWhile p (c :: s) := by
  have some : ((c :: s).reverse.dropWhile p).isEmpty = false := by
    rw [List.isEmpty_eq_false_iff, ne_eq, List.dropWhile_eq_nil_iff]
    exact fun all => by simpa [solid] using all c (by simp)
  rw [dropEndWhile, List.reverse_append, List.dropWhile_append, some, if_neg Bool.false_ne_true,
    List.reverse_append, List.reverse_reverse]
  rfl

/-- A text that starts with none of what is accepted keeps its start. -/
theorem trimWhere_cons (solid : p c = false) : ∃ more, trimWhere p (c :: s) = c :: more := by
  rw [trimWhere_cons_solid solid, dropEndWhile_eq_rdropWhile]
  have kept : (c :: s).rdropWhile p <+: c :: s := List.rdropWhile_prefix p _
  rcases left : (c :: s).rdropWhile p with _ | ⟨first, more⟩
  · have gone := List.rdropWhile_eq_nil_iff.mp left c List.mem_cons_self
    rw [solid] at gone
    cases gone
  · rw [left, List.cons_prefix_cons] at kept
    exact ⟨more, by rw [kept.1]⟩

theorem Solid.behind (solid : Solid p t) (some : t ≠ []) (starts : p c = false) (before : List Char) :
    Solid p (c :: (before ++ t)) := by
  refine ⟨fun d first => ?_, fun d last => solid.ends d ?_⟩
  · cases first
    exact starts
  · rwa [← List.cons_append, List.getLast?_append_of_ne_nil _ some] at last

theorem Solid.trimWhere (solid : Solid p t) : trimWhere p t = t := by
  cases t with
  | nil => rfl
  | cons c t =>
    rw [trimWhere_cons_solid (solid.starts c rfl), dropEndWhile_eq_rdropWhile,
      List.rdropWhile_eq_self_iff]
    exact fun some accepted => absurd accepted
      (by simp [solid.ends _ (List.getLast?_eq_some_getLast some)])

theorem Trimmed.eq (trimmed : Trimmed p s t) : trimWhere p s = t := by
  obtain ⟨⟨before, after, rfl, front, back⟩, solid⟩ := trimmed
  rw [trimWhere_append back, trimWhere_prepend front, solid.trimWhere]

private theorem solid_dropEndWhile (starts : ∀ c ∈ s.head?, p c = false) : Solid p (dropEndWhile p s) := by
  rw [dropEndWhile_eq_rdropWhile]
  refine ⟨fun c first => ?_, fun c last => ?_⟩
  · obtain ⟨after, whole⟩ := List.rdropWhile_prefix p s
    refine starts c ?_
    rw [← whole, List.head?_append, first]
    rfl
  · have some : s.rdropWhile p ≠ [] := by
      intro nothing
      rw [nothing] at last
      cases last
    rw [List.getLast?_eq_some_getLast some] at last
    cases last
    exact Bool.eq_false_iff.mpr (List.rdropWhile_last_not p s some)

theorem trimmed_trimWhere (p : Char → Bool) (s : List Char) : Trimmed p s (trimWhere p s) := by
  refine ⟨⟨s.takeWhile p, (s.dropWhile p).rtakeWhile p, ?_, fun _ => List.mem_takeWhile_imp,
    fun _ => List.mem_rtakeWhile_imp⟩, solid_dropEndWhile fun c first => ?_⟩
  · rw [trimWhere, dropEndWhile_eq_rdropWhile, List.append_assoc,
      List.rdropWhile_append_rtakeWhile, List.takeWhile_append_dropWhile]
  · have kept := List.head?_dropWhile_not p s
    rw [first] at kept
    exact kept

theorem trimWhere_again (p : Char → Bool) (s : List Char) : trimWhere p (trimWhere p s) = trimWhere p s :=
  (trimmed_trimWhere p s).solid.trimWhere

theorem infix_trimWhere (p : Char → Bool) (s : List Char) : trimWhere p s <:+: s := by
  obtain ⟨before, after, whole, -⟩ := (trimmed_trimWhere p s).inside
  exact ⟨before, after, whole.symm⟩

end MemoAssist.Text

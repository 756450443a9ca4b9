import MemoAssist.Proofs.Text.Trimming
import MemoAssist.Reply
import Mathlib.Data.List.Forall2

namespace MemoAssist

namespace Text

/-- What may end a line. -/
inductive Breaks : List Char → Prop where
  | pair : Breaks ['\r', '\n']
  | single {c : Char} (isBreak : isLineBreak c = true) : Breaks [c]

/-- The lines one behind the other, with a break of any kind after each but the last, which may have one. -/
inductive Joined : List (List Char) → List Char → Prop where
  | nil : Joined [] []
  | last (line : List Char) : Joined [line] line
  | cons {line brk s : List Char} {more : List (List Char)} (breaks : Breaks brk) (later : Joined more s) :
      Joined (line :: more) (line ++ brk ++ s)

def Plain (line : List Char) : Prop := ∀ c ∈ line, isLineBreak c = false

instance (line : List Char) : Decidable (Plain line) :=
  decidable_of_iff (line.all (! isLineBreak ·) = true) (by simp [Plain])

variable {c : Char} {line brk s : List Char} {more : List (List Char)}

private theorem lines_plain_cons (plain : isLineBreak c = false) (s : List Char) :
    lines (c :: s) = consFirst c (lines s) := by
  have other : c ≠ '\r' := by
    rintro rfl
    exact absurd plain (by decide)
  rw [lines.eq_3 _ _ (by simp [other]), if_neg (by simp [plain])]
  rfl

/-- A line ends at the break behind it. -/
theorem lines_plain_append (plain : Plain line) (ended : lines s = [] :: more) :
    lines (line ++ s) = line :: more := by
  induction line with
  | nil => exact ended
  | cons c line ih =>
    obtain ⟨first, rest⟩ := List.forall_mem_cons.mp plain
    rw [List.cons_append, lines_plain_cons first, ih rest]
    rfl

private theorem lines_plain (plain : Plain line) : lines line = [line] ∨ line = [] := by
  induction line with
  | nil => exact .inr rfl
  | cons c line ih =>
    obtain ⟨first, rest⟩ := List.forall_mem_cons.mp plain
    rw [lines_plain_cons first]
    rcases ih rest with same | rfl
    · exact .inl (by rw [same]; rfl)
    · exact .inl rfl

/-- A break ends a line. But where it is a carriage return and an empty line follows that ends with a line
feed, the two are one break, and the empty line is lost. -/
theorem lines_break (breaks : Breaks brk) (s : List Char) :
    ∃ more, lines (brk ++ s) = [] :: more ∧ (lines s = more ∨ lines s = [] :: more) := by
  cases breaks with
  | pair => exact ⟨lines s, rfl, .inl rfl⟩
  | @single c isBreak =>
    by_cases together : c = '\r' ∧ ∃ rest, s = '\n' :: rest
    · obtain ⟨rfl, rest, rfl⟩ := together
      exact ⟨lines rest, rfl, .inr rfl⟩
    · refine ⟨lines s, ?_, .inl rfl⟩
      rw [List.singleton_append, lines.eq_3, if_pos isBreak]
      exact fun rest first after => together ⟨first, rest, after⟩

end Text

namespace Reply

open Text

/-- The points of the lines of a text. -/
def pointsIn (s : List Char) : List (List Char) := (lines s).filterMap keyPoint?

/-- A line with its point, or without one if it does not start with a bullet. -/
inductive Line : List Char → Option (List Char) → Prop where
  | bullet {indent gap point after : List Char} {mark : Char} (marked : mark ∈ ['-', '*', '•'])
      (front : ∀ c ∈ indent, isBlank c = true) (middle : ∀ c ∈ gap, isBlank c = true)
      (back : ∀ c ∈ after, isBlank c = true) (told : point ≠ []) (solid : Solid isBlank point) :
      Line (indent ++ mark :: ' ' :: (gap ++ point) ++ after) (some point)
  | prose {line : List Char} (unmarked : ∀ mark ∈ ['-', '*', '•'], ¬ [mark, ' '] <+: trim line) :
      Line line none

variable {line brk s : List Char} {point : Option (List Char)} {all : List (List Char)}
  {points : List (Option (List Char))}

private theorem isBullet_iff {mark : Char} : isBullet mark = true ↔ mark ∈ ['-', '*', '•'] := by
  simp [isBullet, or_assoc]

theorem Line.keyPoint? (shown : Line line point) : keyPoint? line = point := by
  cases shown with
  | @bullet indent gap point after mark marked front middle back told solid =>
    have marker : isBlank mark = false := by
      simp only [List.mem_cons, List.not_mem_nil, or_false] at marked
      rcases marked with rfl | rfl | rfl <;> rfl
    have core : trim (indent ++ mark :: ' ' :: (gap ++ point) ++ after) = mark :: ' ' :: (gap ++ point) :=
      Trimmed.eq ⟨⟨indent, after, rfl, front, back⟩, solid.behind told marker (' ' :: gap)⟩
    have inner : trim (gap ++ point) = point := (trimWhere_prepend middle).trans solid.trimWhere
    simp only [Reply.keyPoint?, core, isBullet_iff.mpr marked, if_true, inner]
    exact if_neg (by simpa using told)
  | prose unmarked =>
    rw [Reply.keyPoint?]
    split
    · next mark rest whole =>
      split
      · next marked => exact absurd ⟨rest, whole.symm⟩ (unmarked mark (isBullet_iff.mp marked))
      · rfl
    · rfl

private theorem filterMap_keyPoint? (line : List Char) (more : List (List Char)) :
    (line :: more).filterMap Reply.keyPoint? = (Reply.keyPoint? line).toList ++ more.filterMap Reply.keyPoint? := by
  rw [List.filterMap_cons]
  cases Reply.keyPoint? line <;> rfl

private theorem pointsIn_line (plain : Plain line) : pointsIn line = (keyPoint? line).toList := by
  rcases lines_plain plain with same | rfl
  · rw [pointsIn, same, filterMap_keyPoint?]
    exact List.append_nil _
  · rfl

/-- A line that is lost between two breaks held no point. -/
theorem pointsIn_append (plain : Plain line) (breaks : Breaks brk) (s : List Char) :
    pointsIn (line ++ brk ++ s) = (keyPoint? line).toList ++ pointsIn s := by
  obtain ⟨more, ended, next⟩ := lines_break breaks s
  have later : pointsIn s = more.filterMap keyPoint? := by
    rcases next with same | lost
    · rw [pointsIn, same]
    · rw [pointsIn, lost]
      rfl
  rw [pointsIn, List.append_assoc, lines_plain_append plain ended, filterMap_keyPoint?, later]

private theorem reduceOption_cons (point : Option (List Char)) (points : List (Option (List Char))) :
    (point :: points).reduceOption = point.toList ++ points.reduceOption := by
  cases point <;> rfl

theorem pointsIn_joined (joined : Joined all s) (plain : ∀ line ∈ all, Plain line)
    (shown : List.Forall₂ Line all points) : pointsIn s = points.reduceOption := by
  induction joined generalizing points with
  | nil =>
    cases shown
    rfl
  | last line =>
    obtain ⟨own, -⟩ := List.forall_mem_cons.mp plain
    cases shown with
    | cons shown nothing =>
      cases nothing
      rw [pointsIn_line own, shown.keyPoint?, reduceOption_cons]
      exact (List.append_nil _).symm
  | cons breaks later ih =>
    obtain ⟨own, others⟩ := List.forall_mem_cons.mp plain
    cases shown with
    | cons shown rest => rw [pointsIn_append own breaks, shown.keyPoint?, ih others rest, reduceOption_cons]

theorem keyPoints_eq (summary : String) : keyPoints summary = (pointsIn summary.toList).map String.ofList := by
  rw [keyPoints, pointsIn, List.map_filterMap]

end Reply

end MemoAssist

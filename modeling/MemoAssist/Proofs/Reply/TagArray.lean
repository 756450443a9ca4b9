import MemoAssist.Proofs.Json.Depth
import MemoAssist.Proofs.Json.RoundTrip
import MemoAssist.Proofs.Text.Trimming
import MemoAssist.Reply
import Mathlib.Data.List.Infix

/-! Tags read out of an array. Whatever a reply puts around the array, blanks or a code fence, the texts
in it are taken as tags; and where there is another value instead, there are none. -/
namespace MemoAssist.Json

/-! ### Arrays by their first character -/

variable {s rest : List Char} {c : Char} {v : Json} {items : List Json} {fuel : Nat}

/-- What starts with a bracket is an array. -/
theorem value?_bracket (read : value? fuel ('[' :: s) = some (v, rest)) : ∃ items, v = .arr items := by
  cases fuel with
  | zero => cases read
  | succ fuel =>
    rw [value?.eq_4] at read
    split at read
    · cases read
      exact ⟨[], rfl⟩
    · obtain ⟨_, -, same⟩ := Option.map_eq_some_iff.mp read
      cases same
      exact ⟨_, rfl⟩

/-- Nothing else is. -/
theorem bracket_of_value? (read : value? fuel (c :: s) = some (.arr items, rest)) : c = '[' := by
  cases fuel with
  | zero => cases read
  | succ fuel =>
    unfold value? at read
    split at read
    · obtain ⟨_, -, wrong⟩ := Option.map_eq_some_iff.mp read
      cases wrong
    · split at read
      · cases read
      · obtain ⟨_, -, wrong⟩ := Option.map_eq_some_iff.mp read
        cases wrong
    · next bracket =>
      cases bracket
      rfl
    · cases read
    · cases read
    · cases read
    · cases read
    · cases read
    · cases read
    · obtain ⟨_, -, wrong⟩ := Option.map_eq_some_iff.mp read
      cases wrong

private theorem isSpace_of_solid (solid : Text.isBlank c = false) : isSpace c = false := by
  refine Bool.eq_false_iff.mpr fun space => ?_
  simp only [isSpace, Bool.or_eq_true, decide_eq_true_eq] at space
  rcases space with ((rfl | rfl) | rfl) | rfl <;> cases solid

/-- A text is an array exactly if it starts with a bracket. -/
theorem read?_bracket (solid : isSpace c = false) (read : read? (c :: s) = some v) :
    (∃ items, v = .arr items) ↔ c = '[' := by
  rw [read?, skipSpace_solid solid] at read
  split at read
  · next w rest found =>
    obtain ⟨-, same⟩ := Option.ite_none_right_eq_some.mp read
    cases same
    constructor
    · rintro ⟨items, rfl⟩
      exact bracket_of_value? found
    · rintro rfl
      exact value?_bracket found
  · cases read

end MemoAssist.Json

namespace MemoAssist.Reply

open Text

/-- What may stand behind a text in a code fence. The marks that close it may be missing. -/
def closings : List (List Char) := ['\n' :: fence, fence, ['\n'], []]

/-- How a reply may hold a text: alone, in a code fence, and in each case with blanks around it. -/
inductive Wraps (text : List Char) : List Char → Prop where
  | bare : Wraps text text
  | fenced {info ending : List Char} (oneLine : '\n' ∉ info) (closing : ending ∈ closings) :
      Wraps text (fence ++ info ++ '\n' :: (text ++ ending))
  | spaced {reply before after : List Char} (wraps : Wraps text reply)
      (front : ∀ c ∈ before, isBlank c = true) (back : ∀ c ∈ after, isBlank c = true) :
      Wraps text (before ++ reply ++ after)

/-- The items of an array that are texts. -/
def texts (items : List Json) : List String :=
  items.filterMap fun
    | .str s => some s
    | _ => none

/-- The text without the blanks around it. -/
def trimmed (s : String) : String := String.ofList (trim s.toList)

/-- What is kept of an array are its texts, trimmed, without those that are blank. -/
theorem tagItems_eq (items : List Json) :
    tagItems items = ((texts items).map trimmed).filter (· ≠ "") := by
  induction items with
  | nil => rfl
  | cons item items ih =>
    cases item with
    | null | bool | num | arr | obj => exact ih
    | str s =>
      rcases left : trim s.toList with _ | ⟨c, more⟩
      · have blank : trimmed s = "" := congrArg String.ofList left
        have dropped : tagItems (.str s :: items) = tagItems items :=
          List.filterMap_cons_none (by simp [left])
        rw [dropped, ih]
        exact (List.filter_cons_of_neg (by simp [blank])).symm
      · have some : trimmed s ≠ "" := by simp [trimmed, left]
        have kept : tagItems (.str s :: items) = trimmed s :: tagItems items :=
          List.filterMap_cons_some (by simp [left, trimmed])
        rw [kept, ih]
        exact (List.filter_cons_of_pos (by simp [some])).symm

/-! ### Out of the fence -/

variable {text reply s t info ending : List Char} {c : Char}

/-- What stands in a fence whose closing marks may be missing. -/
def beforeClosing (body : List Char) : List Char :=
  if fence.isSuffixOf body then body.take (body.length - 3) else body

private theorem beforeClosing_fence (t : List Char) : beforeClosing (t ++ fence) = t := by
  have closed : fence.isSuffixOf (t ++ fence) = true :=
    List.isSuffixOf_iff_suffix.mpr (List.suffix_append t fence)
  rw [beforeClosing, if_pos closed, List.length_append]
  exact List.take_left

private theorem beforeClosing_cases (s : List Char) :
    beforeClosing s = s ∨ ∃ t, s = t ++ fence ∧ beforeClosing s = t := by
  by_cases closed : fence <:+ s
  · obtain ⟨t, rfl⟩ := closed
    exact .inr ⟨t, rfl, beforeClosing_fence t⟩
  · exact .inl (if_neg (mt List.isSuffixOf_iff_suffix.mp closed))

private theorem unfenced_spaced {before after : List Char} (front : ∀ c ∈ before, isBlank c = true)
    (back : ∀ c ∈ after, isBlank c = true) : unfenced (before ++ s ++ after) = unfenced s := by
  have same : trim (before ++ s ++ after) = trim s := by
    rw [trim, trimWhere_append back, trimWhere_prepend front]
    rfl
  rw [unfenced, same]
  rfl

private theorem not_fence (notMark : c ≠ '\x60') : ¬ fence.isPrefixOf (c :: s) = true := by
  rw [List.isPrefixOf_iff_prefix]
  exact fun opened => notMark (List.cons_prefix_cons.mp opened).1.symm

private theorem unfenced_bare (solid : isBlank c = false) (notMark : c ≠ '\x60') :
    unfenced (c :: s) = trim (c :: s) := by
  have again : trim (trim (c :: s)) = trim (c :: s) := trimWhere_again isBlank (c :: s)
  obtain ⟨more, start⟩ := trimWhere_cons (s := s) solid
  rw [unfenced]
  simp only [again]
  rw [trim, start, if_neg (not_fence notMark)]

/-- The line that opens a fence is cut off with all its marks. -/
theorem unfenced_opened (oneLine : '\n' ∉ info)
    (trimmed : trim s = fence ++ info ++ '\n' :: t) : unfenced s = trim (beforeClosing t) := by
  have opened : fence.isPrefixOf (trim s) = true := by
    rw [trimmed, List.isPrefixOf_iff_prefix, List.append_assoc]
    exact List.prefix_append _ _
  have broken : (trim s).contains '\n' = true := by simp [trimmed]
  have inner : ((trim s).dropWhile (· ≠ '\n')).drop 1 = t := by
    have noBreak : ∀ c ∈ fence ++ info, decide (c ≠ '\n') = true := by
      intro c member
      refine decide_eq_true fun same => ?_
      rcases List.mem_append.mp (same ▸ member) with mark | member
      · exact absurd mark (by decide)
      · exact oneLine member
    rw [trimmed, List.dropWhile_append_of_pos noBreak]
    rfl
  simp only [unfenced, if_pos opened, if_pos broken, inner]
  rfl

private theorem trim_opened (solid : isBlank c = false) :
    trim (fence ++ info ++ '\n' :: (c :: s)) = fence ++ info ++ '\n' :: trim (c :: s) := by
  have whole (s : List Char) : fence ++ info ++ '\n' :: s = fence ++ info ++ ['\n'] ++ s := by simp
  have inner : trim (c :: s) = dropEndWhile isBlank (c :: s) := trimWhere_cons_solid solid
  rw [whole (c :: s), whole (trim (c :: s)), inner, ← dropEndWhile_behind solid]
  exact trimWhere_cons_solid (by decide)

private theorem trim_closed (solid : isBlank c = false) : trim (c :: s ++ fence) = c :: s ++ fence := by
  have marks : Solid isBlank fence := by decide
  exact (marks.behind (by decide) solid s).trimWhere

private theorem trim_beforeClosing (s : List Char) : trim (beforeClosing (trim s)) = trim s ∨
    ∃ t, trim s = t ++ fence ∧ trim (beforeClosing (trim s)) = trim t := by
  rcases beforeClosing_cases (trim s) with same | ⟨t, closed, left⟩
  · rw [same]
    exact .inl (trimWhere_again isBlank s)
  · rw [left]
    exact .inr ⟨t, closed, rfl⟩

/-- What comes out of its wrapping is the text, trimmed, if it starts with neither a blank nor a mark. But
marks at its end may be taken for those that close the fence. -/
theorem unfenced_wraps (solid : isBlank c = false) (notMark : c ≠ '\x60') (wraps : Wraps (c :: s) reply) :
    unfenced reply = trim (c :: s) ∨ ∃ t, trim (c :: s) = t ++ fence ∧ unfenced reply = trim t := by
  induction wraps with
  | bare => exact .inl (unfenced_bare solid notMark)
  | spaced _ front back ih =>
    rw [unfenced_spaced front back]
    exact ih
  | fenced oneLine closing =>
    rw [List.cons_append, unfenced_opened oneLine (trim_opened solid), ← List.cons_append]
    have feed : ∀ d ∈ ['\n'], isBlank d = true := List.all_eq_true.mp rfl
    simp only [closings, List.mem_cons, List.not_mem_nil, or_false] at closing
    -- Only an unclosed fence leaves it to the end of the text whether there are marks to cut off.
    rcases closing with rfl | rfl | rfl | rfl
    · have closed : trim (c :: s ++ '\n' :: fence) = c :: s ++ ['\n'] ++ fence := by
        simpa using trim_closed (s := s ++ ['\n']) solid
      rw [closed, beforeClosing_fence]
      exact .inl (trimWhere_append feed)
    · rw [trim_closed solid, beforeClosing_fence]
      exact .inl rfl
    · have fed : trim (c :: s ++ ['\n']) = trim (c :: s) := trimWhere_append feed
      rw [fed]
      exact trim_beforeClosing _
    · rw [List.append_nil]
      exact trim_beforeClosing _

/-! ### Out of the array -/

/-- What is read off a reply that holds a text with a value in it. -/
structure ReadOff (text : List Char) (v : Json) (tags : Option (List String)) : Prop where
  array : ∀ items, v = .arr items → text.head? = some '[' → text.getLast? = some ']' →
    tags = some (((texts items).map trimmed).filter (· ≠ ""))
  other : (∀ items, v ≠ .arr items) → (∀ c ∈ text.head?, c ≠ '\x60' ∧ isBlank c = false) → tags = none

private theorem unfenced_solid (solid : Solid isBlank (c :: s)) (notMark : c ≠ '\x60')
    (last : (c :: s).getLast? ≠ some '\x60') (wraps : Wraps (c :: s) reply) : unfenced reply = c :: s := by
  have same : trim (c :: s) = c :: s := solid.trimWhere
  rcases unfenced_wraps (solid.starts c rfl) notMark wraps with out | ⟨t, closed, -⟩
  · exact out.trans same
  · rw [← same, closed, List.getLast?_append] at last
    exact absurd rfl last

private theorem unfenced_start (solid : isBlank c = false) (notMark : c ≠ '\x60')
    (wraps : Wraps (c :: s) reply) :
    ∃ more, unfenced reply = c :: more := by
  obtain ⟨more, start⟩ := trimWhere_cons (s := s) solid
  rcases unfenced_wraps solid notMark wraps with out | ⟨t, closed, out⟩
  · exact ⟨more, out.trans start⟩
  · have start : c :: more = t ++ fence := start.symm.trans closed
    rcases t with _ | ⟨d, t⟩
    · exact absurd (List.cons.inj start).1 notMark
    · obtain rfl := (List.cons.inj start).1
      rw [out]
      exact trimWhere_cons solid

theorem tags_of_wrapped {text : List Char} {v : Json} {reply : String} (wraps : Wraps text reply.toList)
    (read : Json.decoded? text = some v) : ReadOff text v (tagArray? reply) := by
  constructor
  case array =>
    rintro items rfl first last
    obtain ⟨more, rfl⟩ := List.head?_eq_some_iff.mp first
    have solid : Solid isBlank ('[' :: more) :=
      ⟨fun c start => by cases start; decide, fun c close => by cases last.symm.trans close; decide⟩
    have inner := unfenced_solid solid (by decide) (by rw [last]; decide) wraps
    rw [tagArray?, inner, read, ← tagItems_eq]
  case other =>
    intro noArray starts
    rcases text with _ | ⟨c, more⟩
    · cases read
    · obtain ⟨notMark, solid⟩ := starts c rfl
      obtain ⟨more', inner⟩ := unfenced_start solid notMark wraps
      have noSpace := Json.isSpace_of_solid solid
      rw [tagArray?, inner]
      split
      · next items found =>
        have found := (Json.decoded?_eq_some.mp found).2
        have read := (Json.decoded?_eq_some.mp read).2
        have bracket := (Json.read?_bracket noSpace found).mp ⟨items, rfl⟩
        obtain ⟨items, array⟩ := (Json.read?_bracket noSpace read).mpr bracket
        exact absurd array (noArray items)
      · rfl

/-- An array over several lines, with brackets and marks of a fence in its texts. -/
def severalLines : String := "[\n  \"a`]\",\n  3,\n  \" b\\n\",\n  \"\"\n]"

/-- In a fence that is closed at once, with blanks around it, it gives the two tags that it holds. -/
theorem tags_of_wrapped_lines :
    let reply := "\n ```json\n" ++ severalLines ++ "```\n"
    Wraps severalLines.toList reply.toList ∧
      Json.decoded? severalLines.toList = some (.arr [.str "a`]", .int 3, .str " b\n", .str ""]) ∧
        tagArray? reply = some ["a`]", "b"] := by
  intro reply
  let fencedLines := fence ++ "json".toList ++ '\n' :: (severalLines.toList ++ fence)
  have inner : Wraps severalLines.toList fencedLines := .fenced (by decide) (by decide)
  have whole : reply.toList = ['\n', ' '] ++ fencedLines ++ ['\n'] := by decide
  have wraps : Wraps severalLines.toList reply.toList :=
    whole ▸ inner.spaced (List.all_eq_true.mp rfl) (List.all_eq_true.mp rfl)
  have read : Json.decoded? severalLines.toList =
      some (.arr [.str "a`]", .int 3, .str " b\n", .str ""]) := by
    simp only [severalLines, String.reduceToList]
    rfl
  have tags := (tags_of_wrapped wraps read).array _ rfl (by decide) (by decide)
  exact ⟨wraps, read, tags.trans (by decide)⟩

end MemoAssist.Reply

import MemoAssist.Proofs.Json.Numbers
import MemoAssist.Proofs.Text.Trimming
import MemoAssist.Reply

namespace MemoAssist

namespace Text

/-- The pieces between the occurrences of a single character are those of the library. -/
theorem splitOn_singleton (d : Char) (s : List Char) : splitOn [d] s = s.splitOn d := by
  induction s with
  | nil =>
    rw [splitOn]
    rfl
  | cons c s ih =>
    have first : ([d] ≠ [] ∧ [d].isPrefixOf (c :: s) = true) ↔ (c == d) = true := by
      rw [and_iff_right (List.cons_ne_nil d []), List.isPrefixOf_iff_prefix, List.cons_prefix_cons,
        and_iff_left List.nil_prefix, beq_iff_eq, eq_comm]
    rw [splitOn, List.splitOn_cons_eq_if_modifyHead]
    simp only [first, List.length_singleton, Nat.sub_self, List.drop_zero, ih]
    rcases pieces : s.splitOn d with _ | ⟨piece, more⟩
    · exact absurd pieces (List.splitOn_ne_nil d s)
    · rfl

end Text

namespace Reply

open Text

/-- What a tag in running text looks like. -/
structure WellFormed (t : List Char) : Prop where
  short : 1 ≤ t.length ∧ t.length ≤ 50
  plain : ∀ c ∈ t, c.isAlphanum = true ∨ c = '-' ∨ c = '_'
  lettered : ∃ c ∈ t, c.isAlpha = true
  starts : t.head? ≠ some '-'
  ends : t.getLast? ≠ some '-'

instance (t : List Char) : Decidable (WellFormed t) :=
  decidable_of_iff ((1 ≤ t.length ∧ t.length ≤ 50) ∧
      t.all (fun c => decide (c.isAlphanum = true ∨ c = '-' ∨ c = '_')) = true ∧ t.any Char.isAlpha = true ∧
        t.head? ≠ some '-' ∧ t.getLast? ≠ some '-')
    ⟨fun ⟨short, plain, lettered, starts, ends⟩ =>
      ⟨short, by simpa using plain, List.any_eq_true.mp lettered, starts, ends⟩,
      fun ⟨short, plain, lettered, starts, ends⟩ =>
        ⟨short, by simpa using plain, List.any_eq_true.mpr lettered, starts, ends⟩⟩

/-- The texts occur in this order, none overlapping another. -/
inductive InOrder : List (List Char) → List Char → Prop where
  | nil (s : List Char) : InOrder [] s
  | cons {t : List Char} {more : List (List Char)} {rest : List Char} (before : List Char)
      (later : InOrder more rest) : InOrder (t :: more) (before ++ t ++ rest)

/-- What does not belong to a tag at either end of a piece. -/
def edges : List Char := [' ', '\t', '\n', '\r', '"', '\'', '[', ']', '{', '}', '#', '-']

def withoutEdges (piece : List Char) : List Char :=
  (piece.dropWhile (· ∈ edges)).rdropWhile (· ∈ edges)

/-- The pieces between the occurrences of a delimiter that are tags when their edges are gone. -/
def tagsBetween (d : Char) (s : List Char) : List (List Char) :=
  ((s.splitOn d).map withoutEdges).filter (WellFormed ·)

/-- What is read out of a text. -/
structure Extracted (s : List Char) (tags : List (List Char)) : Prop where
  wellFormed : ∀ t ∈ tags, WellFormed t
  inOrder : InOrder tags s
  /-- The first delimiter that yields any tags decides, and all its tags are taken. -/
  first : ∀ earlier d later, [',', '\n', ';', ' '] = earlier ++ d :: later →
    (∀ e ∈ earlier, tagsBetween e s = []) → tagsBetween d s ≠ [] → tags = tagsBetween d s
  empty : tags = [] ↔ ∀ d ∈ [',', '\n', ';', ' '], tagsBetween d s = []

/-! ### One piece -/

variable {t s rest : List Char} {more ts : List (List Char)} {c : Char}

private theorem isLetter_iff : isLetter c = true ↔ c.isAlpha = true := by
  have upper : c.isUpper = true ↔ 65 ≤ c.toNat ∧ c.toNat ≤ 90 := decide_eq_true_iff
  have lower : c.isLower = true ↔ 97 ≤ c.toNat ∧ c.toNat ≤ 122 :=
    Bool.and_eq_true_iff.trans (and_congr decide_eq_true_iff decide_eq_true_iff)
  have alpha : c.isAlpha = true ↔ c.isUpper = true ∨ c.isLower = true := Bool.or_eq_true_iff
  rw [alpha, upper, lower]
  simp only [isLetter, Bool.or_eq_true, Bool.and_eq_true, decide_eq_true_eq]

theorem isTagChar_iff : isTagChar c = true ↔ c.isAlphanum = true ∨ c = '-' ∨ c = '_' := by
  simp [isTagChar, Char.isAlphanum, isLetter_iff, Json.isDigit_iff, or_assoc]

/-- A trimmed piece is a tag exactly if it looks like one. -/
theorem isTag_iff (solid : Solid isTagEdge t) : isTag t = true ↔ WellFormed t := by
  simp only [isTag, Bool.and_eq_true, List.all_eq_true,
    List.any_eq_true, isTagChar_iff, isLetter_iff]
  constructor
  · rintro ⟨⟨short, plain⟩, c, member, letter⟩
    refine ⟨⟨List.length_pos_of_mem member, of_decide_eq_true short⟩, plain, ⟨c, member, letter⟩, fun first => ?_,
      fun last => ?_⟩
    · exact absurd (solid.starts _ first) (by decide)
    · exact absurd (solid.ends _ last) (by decide)
  · rintro ⟨⟨-, short⟩, plain, lettered, -, -⟩
    exact ⟨⟨decide_eq_true short, plain⟩, lettered⟩

private theorem trimTag_eq : trimTag = withoutEdges := by
  have edge : isTagEdge = fun c => decide (c ∈ edges) := funext fun _ => List.contains_eq_mem _ _
  funext piece
  rw [trimTag, edge]
  rfl

/-- The pieces that pass the check are those that look like tags. -/
theorem filter_pieces (d : Char) (s : List Char) : (pieces [d] s).filter isTag = tagsBetween d s := by
  rw [pieces, List.filter_filter, splitOn_singleton, tagsBetween, ← trimTag_eq]
  refine List.filter_congr fun t member => ?_
  obtain ⟨piece, -, rfl⟩ := List.mem_map.mp member
  have solid := (trimmed_trimWhere isTagEdge piece).solid
  rw [Bool.eq_iff_iff, Bool.and_eq_true, trimTag, isTag_iff solid, decide_eq_true_eq,
    decide_eq_true_eq, and_iff_left_iff_imp]
  exact fun wellFormed => List.length_pos_iff.mp wellFormed.short.1

/-! ### All of a delimiter -/

namespace InOrder

theorem skip (inOrder : InOrder ts s) (before : List Char) : InOrder ts (before ++ s) := by
  cases inOrder with
  | nil => exact .nil _
  | cons front later =>
    rw [← List.append_assoc, ← List.append_assoc]
    exact .cons (before ++ front) later

/-- The rest are in order where some are left out. -/
theorem sublist (part : more.Sublist ts) (inOrder : InOrder ts s) : InOrder more s := by
  induction inOrder generalizing more with
  | nil s =>
    rw [List.sublist_nil.mp part]
    exact .nil s
  | cons before later ih =>
    cases part with
    | cons _ part => exact (ih part).skip _
    | cons_cons _ part => exact .cons before (ih part)

/-- Parts of what is in order are in order. -/
theorem map {f : List Char → List Char} (part : ∀ t, f t <:+: t) (inOrder : InOrder ts s) :
    InOrder (ts.map f) s := by
  induction inOrder with
  | nil s => exact .nil s
  | @cons t more rest before later ih =>
    obtain ⟨front, back, whole⟩ := part t
    have place : before ++ t ++ rest = before ++ front ++ f t ++ (back ++ rest) := by
      conv_lhs => rw [← whole]
      simp
    rw [place]
    exact .cons _ (ih.skip back)

theorem intercalate (d : Char) (ts : List (List Char)) : InOrder ts ([d].intercalate ts) := by
  induction ts with
  | nil => exact .nil _
  | cons t ts ih =>
    cases ts with
    | nil =>
      have last : InOrder [t] ([] ++ t ++ []) := .cons [] (.nil [])
      simpa using last
    | cons u ts =>
      rw [List.intercalate_cons_cons, List.append_assoc]
      exact .cons [] (ih.skip [d])

end InOrder

private theorem inOrder_tagsBetween (d : Char) (s : List Char) : InOrder (tagsBetween d s) s := by
  have cut := InOrder.intercalate d (s.splitOn d)
  rw [List.intercalate_splitOn d] at cut
  rw [tagsBetween, ← trimTag_eq]
  exact (cut.map (infix_trimWhere isTagEdge)).sublist List.filter_sublist

private theorem wellFormed_tagsBetween {d : Char} (member : t ∈ tagsBetween d s) : WellFormed t :=
  of_decide_eq_true (List.mem_filter.mp member).2

/-! ### The first delimiter -/

variable {d : Char} {ds earlier : List Char}

theorem extractBy_cons (s : List Char) (d : Char) (ds : List Char) :
    extractBy s (d :: ds) = if tagsBetween d s = [] then extractBy s ds else tagsBetween d s := by
  rw [extractBy, filter_pieces]
  simp only [List.isEmpty_iff]

private theorem extractBy_first (useless : ∀ e ∈ earlier, tagsBetween e s = [])
    (useful : tagsBetween d s ≠ [])
    (later : List Char) : extractBy s (earlier ++ d :: later) = tagsBetween d s := by
  induction earlier with
  | nil => exact (extractBy_cons s d later).trans (if_neg useful)
  | cons e earlier ih =>
    obtain ⟨now, rest⟩ := List.forall_mem_cons.mp useless
    rw [List.cons_append, extractBy_cons, if_pos now, ih rest]

private theorem extractBy_eq_nil : extractBy s ds = [] ↔ ∀ d ∈ ds, tagsBetween d s = [] := by
  induction ds with
  | nil => simp [extractBy]
  | cons d ds ih =>
    rw [extractBy_cons, List.forall_mem_cons]
    split
    · next useless => rw [ih, and_iff_right useless]
    · next useful => exact iff_of_false useful fun all => useful all.1

/-- Whatever is read out was found by a single delimiter. -/
theorem extractBy_single (s : List Char) (ds : List Char) :
    extractBy s ds = [] ∨ ∃ d ∈ ds, extractBy s ds = tagsBetween d s := by
  induction ds with
  | nil => exact .inl rfl
  | cons d ds ih =>
    rw [extractBy_cons]
    split
    · exact ih.imp_right fun ⟨e, member, found⟩ => ⟨e, List.mem_cons_of_mem d member, found⟩
    · exact .inr ⟨d, List.mem_cons_self, rfl⟩

theorem extracted (reply : String) :
    Extracted reply.toList ((extractedTags reply).map String.toList) := by
  have chars : (extractedTags reply).map String.toList = extractBy reply.toList delimiters := by
    simp [extractedTags, List.map_map, Function.comp_def]
  rw [chars]
  have single := extractBy_single reply.toList delimiters
  constructor
  case wellFormed =>
    intro t member
    rcases single with nothing | ⟨d, -, found⟩
    · rw [nothing] at member
      cases member
    · rw [found] at member
      exact wellFormed_tagsBetween member
  case inOrder =>
    rcases single with nothing | ⟨d, -, found⟩
    · rw [nothing]
      exact .nil _
    · rw [found]
      exact inOrder_tagsBetween d reply.toList
  case first =>
    intro earlier d later here useless useful
    rw [delimiters, here]
    exact extractBy_first useless useful later
  case empty => exact extractBy_eq_nil

/-- Marks, brackets and quotes are cut off, and what is no tag is left out. -/
example : extractedTags "[Tags: \"work\", \"v2\", 42, c++, -todo-]" = ["v2", "todo"] := by cbv

end Reply

end MemoAssist

import MemoAssist.Proofs.Provider.Calls
import MemoAssist.Proofs.Reply.Extraction
import MemoAssist.Proofs.Reply.KeyPoints
import MemoAssist.Proofs.Reply.TagArray

namespace MemoAssist

open Text (Solid isBlank trimmed_trimWhere)

/-- A backend that keeps a list of what it is asked. -/
def recording {σ : Type} (complete : CompletionRequest → Act σ CompletionResponse) (q : CompletionRequest) :
    Act (σ × List CompletionRequest) CompletionResponse := fun (now, asked) =>
  let (outcome, after) := complete q now
  (outcome, after, asked ++ [q])

private theorem recording_eq {σ : Type} {complete : CompletionRequest → Act σ CompletionResponse}
    {q : CompletionRequest} {now after : σ} {outcome : Except Fault CompletionResponse} (asked : List CompletionRequest)
    (replied : complete q now = (outcome, after)) :
    recording complete q (now, asked) = (outcome, after, asked ++ [q]) := by
  rw [recording, replied]

namespace Reply

/-- The tags of a reply are those of an array if it is one, and otherwise those that its text yields. -/
def offered (reply : String) : List String :=
  match tagArray? reply with
  | some tags => tags
  | none => extractedTags reply

/-- A tag is neither empty nor has it blanks at its ends. -/
def Neat (tag : String) : Prop := tag ≠ "" ∧ Solid isBlank tag.toList

variable {reply tag : String} {tags : List String} {c : Char}

/-- No character of a tag is a blank. -/
theorem isBlank_of_isTagChar (named : isTagChar c = true) : isBlank c = false := by
  simp only [isTagChar, isLetter, Text.isDigit, Bool.or_eq_true, Bool.and_eq_true, decide_eq_true_eq] at named
  have graphic : 0x21 ≤ c.toNat ∧ c.toNat ≤ 0x7E := by
    rcases named with ((letter | digit) | rfl) | rfl
    · omega
    · omega
    · decide
    · decide
  refine Bool.eq_false_iff.mpr fun blank => ?_
  simp only [isBlank, Text.inRanges, Text.blankRanges, List.any_cons, List.any_nil, Bool.or_eq_true,
    Bool.and_eq_true, decide_eq_true_eq, Bool.false_eq_true, or_false] at blank
  omega

private theorem neat_of_tagArray? (found : tagArray? reply = some tags) (member : tag ∈ tags) : Neat tag := by
  unfold tagArray? at found
  split at found
  · next items =>
    cases found
    rw [tagItems_eq] at member
    obtain ⟨listed, filled⟩ := List.mem_filter.mp member
    obtain ⟨text, -, rfl⟩ := List.mem_map.mp listed
    refine ⟨of_decide_eq_true filled, ?_⟩
    rw [trimmed, String.toList_ofList]
    exact (trimmed_trimWhere isBlank text.toList).solid
  · cases found

private theorem neat_of_extractedTags (member : tag ∈ extractedTags reply) : Neat tag := by
  have wellFormed := (extracted reply).wellFormed _ (List.mem_map_of_mem member)
  refine ⟨?_, fun c first => ?_, fun c last => ?_⟩
  · rintro rfl
    exact absurd wellFormed.short.1 (by decide)
  · exact isBlank_of_isTagChar (isTagChar_iff.mpr (wellFormed.plain c (List.mem_of_mem_head? first)))
  · exact isBlank_of_isTagChar (isTagChar_iff.mpr (wellFormed.plain c (List.mem_of_getLast? last)))

private theorem neat_of_offered (member : tag ∈ offered reply) : Neat tag := by
  unfold offered at member
  split at member
  · next tags found => exact neat_of_tagArray? found member
  · exact neat_of_extractedTags member

private theorem prefix_upTo {α : Type} (count : Int) (items : List α) : upTo count items <+: items := by
  cases count with
  | ofNat n => exact List.take_prefix n items
  | negSucc n => exact List.take_prefix _ items

private theorem length_upTo_nonneg {α : Type} {count : Int} (nonneg : 0 ≤ count) (items : List α) :
    (upTo count items).length = min items.length count.toNat := by
  obtain ⟨n, rfl⟩ := Int.eq_ofNat_of_zero_le nonneg
  exact List.length_take.trans (Nat.min_comm _ _)

private theorem length_upTo_neg {α : Type} {count : Int} (neg : count < 0) (items : List α) :
    (upTo count items).length = items.length - count.natAbs := by
  obtain ⟨n, rfl⟩ := Int.eq_negSucc_of_lt_zero neg
  exact List.length_take_of_le (Nat.sub_le _ _)

end Reply

namespace SuggestTagsRequest

open Reply

/-- What is suggested out of what is offered when at most so many tags are asked for. -/
structure Suggested (maxTags : Int) (offered tags : List String) : Prop where
  part : tags <+: offered
  usual : maxTags = 0 → tags.length = min offered.length 5
  limited : 0 < maxTags → tags.length = min offered.length maxTags.toNat
  /-- Less than none leaves out so many at the end. -/
  cut : maxTags < 0 → tags.length = offered.length - maxTags.natAbs
  neat : ∀ tag ∈ tags, Neat tag

variable {σ : Type} {complete : CompletionRequest → Act σ CompletionResponse} {r : SuggestTagsRequest}
  {now after : σ} {response : CompletionResponse} {reply : String}

private theorem tagsOf_shallow (r : SuggestTagsRequest) (shallow : Reply.isTooDeep reply = false) :
    r.tagsOf reply = .ok (upTo r.limit (offered reply)) := by
  rw [tagsOf, shallow, offered]
  cases tagArray? reply <;> rfl

private theorem suggested_upTo (r : SuggestTagsRequest) (reply : String) :
    Suggested r.maxTags (offered reply) (upTo r.limit (offered reply)) := by
  constructor
  case part => exact prefix_upTo _ _
  case usual =>
    intro zero
    have limit : r.limit = 5 := if_pos zero
    rw [limit]
    exact length_upTo_nonneg (by decide) _
  case limited =>
    intro positive
    have limit : r.limit = r.maxTags := if_neg (Int.ne_of_gt positive)
    rw [limit]
    exact length_upTo_nonneg (Int.le_of_lt positive) _
  case cut =>
    intro negative
    have limit : r.limit = r.maxTags := if_neg (Int.ne_of_lt negative)
    rw [limit]
    exact length_upTo_neg negative _
  case neat => exact fun tag member => neat_of_offered ((prefix_upTo _ _).mem member)

theorem answerBy_limited (replied : complete r.chat now = (.ok response, after))
    (content : response.content = .str reply) (asked : List CompletionRequest) :
    (Text.isTooLong r.limit = true →
      r.answerBy (recording complete) (now, asked) = (.error .tooLongToWrite, now, asked)) ∧
    (Text.isTooLong r.limit = false → Reply.isTooDeep reply = true →
      r.answerBy (recording complete) (now, asked) = (.error (.of .tooDeep), after, asked ++ [r.chat])) ∧
    (Text.isTooLong r.limit = false → Reply.isTooDeep reply = false →
      ∃ tags, r.answerBy (recording complete) (now, asked) = (.ok { tags }, after, asked ++ [r.chat]) ∧
        Suggested r.maxTags (offered reply) tags) := by
  have asks (writable : Text.isTooLong r.limit = false) :
      r.answerBy (recording complete) (now, asked) =
        ((r.tagsOf reply).map fun tags => ⟨tags, []⟩, after, asked ++ [r.chat]) := by
    rw [answerBy_writable writable, Act.bind_ok (recording_eq asked replied), content]
    exact Act.ofExcept_eq _ _
  refine ⟨answerBy_tooLong, fun writable deep => ?_, fun writable shallow => ?_⟩
  · rw [asks writable, tagsOf, if_pos deep]
    rfl
  · refine ⟨_, ?_, suggested_upTo r reply⟩
    rw [asks writable, tagsOf_shallow r shallow]
    rfl

/-- One tag fewer than none is asked for, and two of three are suggested. -/
theorem answerBy_belowNone :
    let r : SuggestTagsRequest := { content := "memo", maxTags := -1 }
    let reply := "[\"a\", \"b\", \"c\"]"
    let complete : CompletionRequest → Act Unit CompletionResponse := fun _ => pure { content := .str reply }
    Text.isTooLong r.limit = false ∧ Reply.isTooDeep reply = false ∧
      r.answerBy (recording complete) ((), []) = (.ok { tags := ["a", "b"] }, (), [r.chat]) := by
  intro r reply complete
  have writable : Text.isTooLong r.limit = false := by decide +kernel
  have shallow : Reply.isTooDeep reply = false := by decide +kernel
  have three : offered reply = ["a", "b", "c"] := by decide +kernel
  have replied : complete r.chat () = (.ok { content := .str reply }, ()) := rfl
  obtain ⟨tags, answered, suggested⟩ := (answerBy_limited replied rfl []).2.2 writable shallow
  rw [three] at suggested
  have two := suggested.cut (by decide)
  have taken := List.prefix_iff_eq_take.mp suggested.part
  rw [two] at taken
  obtain rfl : tags = ["a", "b"] := taken
  exact ⟨writable, shallow, answered⟩

end SuggestTagsRequest

namespace SummarizeRequest

open Reply

/-- What a summary makes of a reply with these points in it. -/
structure ReadBack (reply : String) (points : List String) : Prop where
  read : keyPoints reply = points
  /-- A length that is too long to be written ends the work before a reply is asked for. -/
  unasked : ∀ {σ : Type} (complete : CompletionRequest → Act σ CompletionResponse) (r : SummarizeRequest)
    (now : σ) (asked : List CompletionRequest), Text.isTooLong r.length = true →
      r.answerBy (recording complete) (now, asked) = (.error .tooLongToWrite, now, asked)
  summarized : ∀ {σ : Type} {complete : CompletionRequest → Act σ CompletionResponse}
    {r : SummarizeRequest} {now after : σ} {response : CompletionResponse} (asked : List CompletionRequest),
      complete r.chat now = (.ok response, after) → response.content = .str reply →
        Text.isTooLong r.length = false →
          r.answerBy (recording complete) (now, asked) =
            (.ok { summary := .str reply, keyPoints := if r.style = "bullet" then points else [] },
              after, asked ++ [r.chat])

private theorem manner_bullet {r : SummarizeRequest} : r.manner = "bullet" ↔ r.style = "bullet" := by
  unfold manner
  split
  · next unsaid =>
    rw [unsaid]
    decide
  · rfl

theorem readBack_of_joined {lines : List (List Char)} {points : List (Option (List Char))} {reply : String}
    (joined : Text.Joined lines reply.toList) (plain : ∀ line ∈ lines, Text.Plain line)
    (shown : List.Forall₂ Line lines points) :
    ReadBack reply (points.reduceOption.map String.ofList) := by
  have read : keyPoints reply = points.reduceOption.map String.ofList := by
    rw [keyPoints_eq, pointsIn_joined joined plain shown]
  constructor
  case read => exact read
  case unasked => exact fun _ _ _ _ => answerBy_tooLong
  case summarized =>
    intro σ complete r now after response asked replied content writable
    rw [answerBy_writable writable, Act.bind_ok (recording_eq asked replied), content]
    by_cases bullet : r.style = "bullet"
    · rw [pointsOf, if_pos (manner_bullet.mpr bullet), if_pos bullet, ← read]
      rfl
    · rw [pointsOf, if_neg (mt manner_bullet.mp bullet), if_neg bullet]
      rfl

/-- Prose, two bullets and one without a point, under breaks of four kinds of which two run together. -/
def mixedBreaks : String := "Overview\r\n\t- first \r\n\u2003•  second * point\u2028-"

theorem readBack_mixedBreaks : ReadBack mixedBreaks ["first", "second * point"] := by
  have blank {s : List Char} (all : s.all Text.isBlank = true) : ∀ c ∈ s, Text.isBlank c = true :=
    List.all_eq_true.mp all
  have prose {line : List Char}
      (unmarked : ['-', '*', '•'].all (fun mark => ! [mark, ' '].isPrefixOf (Text.trim line)) = true) :
      Line line none :=
    .prose (by simpa [← List.isPrefixOf_iff_prefix] using unmarked)
  let first := ['\t'] ++ '-' :: ' ' :: ([] ++ "first".toList) ++ [' ']
  let second := ['\u2003'] ++ '•' :: ' ' :: ([' '] ++ "second * point".toList) ++ []
  let lines := ["Overview".toList, first, [], second, ['-']]
  have whole : mixedBreaks.toList = "Overview".toList ++ ['\r', '\n'] ++
      (first ++ ['\r'] ++ ([] ++ ['\n'] ++ (second ++ ['\u2028'] ++ ['-']))) := by decide
  have joined : Text.Joined lines mixedBreaks.toList := whole ▸
    .cons .pair (.cons (.single rfl) (.cons (.single rfl) (.cons (.single rfl) (.last _))))
  have plain : ∀ line ∈ lines, Text.Plain line := by decide
  have one : Line first (some "first".toList) :=
    .bullet (by decide) (blank rfl) (blank rfl) (blank rfl) (by decide) (by decide)
  have two : Line second (some "second * point".toList) :=
    .bullet (by decide) (blank rfl) (blank rfl) (blank rfl) (by decide) (by decide)
  have shown : List.Forall₂ Line lines [none, some "first".toList, none, some "second * point".toList, none] :=
    .cons (prose rfl) (.cons one (.cons (prose rfl) (.cons two (.cons (prose rfl) .nil))))
  exact readBack_of_joined joined plain shown

end SummarizeRequest

end MemoAssist

import MemoAssist.Proofs.Json.Depth
import MemoAssist.Proofs.Json.Display
import MemoAssist.Proofs.Text.Encoding
import MemoAssist.Wire.Transport

/-! Refusals by a backend. The failure that is made of one depends on its status and on words in its body,
and whether there is another attempt on its status alone; still the failure shows whether there is. -/
namespace MemoAssist.Refusal

open Json

variable {status : Int} {body : Text.Bytes} {fields : List (String × Json)}

/-! ### What a body says -/

/-- The message in the error that a body tells of, which may be an object or just a text. -/
def inError? (fields : List (String × Json)) : Option Json :=
  match find? "error" fields with
  | some (.obj inner) => find? "message" inner
  | some (.str s) => some (.str s)
  | _ => none

/-- The values in a body that may be its message, in the order in which they are looked at. -/
def candidates (fields : List (String × Json)) : List Json :=
  (inError? fields).toList ++ (find? "message" fields).toList

/-- Of two values that may be missing the first that counts, in the two ways to look for it. -/
theorem find?_isSet (first second : Option Json) :
    (first.toList ++ second.toList).find? isSet =
      let v := if (first.getD .null).isSet then first.getD .null else second.getD .null
      if v.isSet then some v else none := by
  have nothing : isSet .null = false := rfl
  cases first with
  | none =>
    cases second with
    | none => simp [nothing]
    | some w => cases set : w.isSet <;> simp [nothing, set]
  | some v =>
    cases set : v.isSet with
    | true => simp [set]
    | false =>
      cases second with
      | none => simp [nothing, set]
      | some w => cases set' : w.isSet <;> simp [set, set']

private theorem told?_eq (fields : List (String × Json)) :
    told? fields = ((candidates fields).find? isSet).map text := by
  have either (p : Prop) [Decidable p] (v : Json) :
      (if p then some v.text else none) = (if p then some v else none).map text := by
    split <;> rfl
  rw [candidates, find?_isSet]
  dsimp only
  rw [← either, told?, inError?]
  cases find? "error" fields with
  | none => rfl
  | some error => cases error <;> rfl

/-- Nothing that may be a message is too long to be written. -/
theorem candidates_short (read : decoded? (Text.decodeReplacing body) = some (.obj fields)) :
    ∀ v ∈ candidates fields, v.hasLongNumber = false := by
  have short : fieldsHaveLongNumber fields = false := read?_short (decoded?_eq_some.mp read).2
  intro v member
  rw [candidates, List.mem_append, Option.mem_toList, Option.mem_toList] at member
  rcases member with inError | beside
  · rw [inError?] at inError
    split at inError
    · next inner error =>
      exact find?_short (find?_short short error : fieldsHaveLongNumber inner = false) inError
    · rw [← Option.some.inj inError]
      rfl
    · cases inError
  · exact find?_short short beside

/-- A message is what the body says. -/
structure Explains (body : Text.Bytes) (note : String) : Prop where
  /-- The first value that counts, as a text, which it has. -/
  told : ∀ fields v, decoded? (Text.decodeReplacing body) = some (.obj fields) →
    (candidates fields).find? isSet = some v → note = v.text ∧ v.hasLongNumber = false
  /-- The whole body where it is no object or holds no such value. -/
  whole : (∀ fields, decoded? (Text.decodeReplacing body) = some (.obj fields) →
    ∀ v ∈ candidates fields, v.isSet = false) → note = String.ofList (Text.decodeReplacing body)
  empty : note = "" ↔ body = []

private theorem message_of_told {v : Json} (read : decoded? (Text.decodeReplacing body) = some (.obj fields))
    (found : (candidates fields).find? isSet = some v) : message body = v.text := by
  simp only [message, read, told?_eq, found, Option.map_some, Option.getD_some]

private theorem message_of_untold
    (untold : ∀ fields, decoded? (Text.decodeReplacing body) = some (.obj fields) →
    (candidates fields).find? isSet = none) :
    message body = String.ofList (Text.decodeReplacing body) := by
  unfold message
  dsimp only
  split
  · next fields read => rw [told?_eq, untold fields read, Option.map_none, Option.getD_none]
  · rfl

/-- A message is empty only where nothing was sent. -/
theorem message_eq_empty : message body = "" ↔ body = [] := by
  constructor
  · intro empty
    by_cases untold : ∀ fields, decoded? (Text.decodeReplacing body) = some (.obj fields) →
        (candidates fields).find? isSet = none
    · rw [message_of_untold untold] at empty
      exact Text.decodeReplacing_eq_nil.mp (String.ofList_injective empty)
    · push Not at untold
      obtain ⟨fields, read, found⟩ := untold
      obtain ⟨v, found⟩ := Option.ne_none_iff_exists'.mp found
      rw [message_of_told read found] at empty
      exact absurd empty (text_ne_empty (List.find?_some found))
  · rintro rfl
    have nothing : Text.decodeReplacing [] = [] := Text.decodeReplacing_eq_nil.mpr rfl
    rw [message_of_untold, nothing]
    intro fields read
    rw [nothing] at read
    cases read

private theorem explains_message (body : Text.Bytes) : Explains body (message body) where
  told fields v read found :=
    ⟨message_of_told read found, candidates_short read v (List.mem_of_find?_eq_some found)⟩
  whole silent := message_of_untold fun fields read =>
    List.find?_eq_none.mpr fun v member => by simp [silent fields read v member]
  empty := message_eq_empty

/-! ### What a refusal comes to -/

/-- A message has certain words in it, in letters of either case. -/
def Mentions (said words : String) : Prop :=
  Text.holds words.toList (Text.lowerForSearch said.toList) = true

/-- A model that is not there. -/
def NoModel (status : Int) (said : String) : Prop := status = 404 ∧ Mentions said "model"

/-- An input that is too long. -/
def TooLong (status : Int) (said : String) : Prop :=
  (status = 400 ∨ status = 413) ∧ ∃ mark ∈ lengthMarks, Mentions said mark

/-- The failure that a refusal comes to. The message counts where the status alone says too little. -/
inductive Comes (status : Int) (said : String) : Fault → Prop where
  | invalidKey (unauthorized : status = 401) : Comes status said (.of .invalidKey)
  | rateLimited (frequent : status = 429) : Comes status said (.of .rateLimited)
  | unavailable (gateway : status = 502 ∨ status = 503 ∨ status = 504) :
    Comes status said (.of .unavailable)
  | modelNotFound (missing : NoModel status said) : Comes status said ⟨.modelNotFound, said⟩
  | contextTooLong (large : TooLong status said) : Comes status said ⟨.contextTooLong, said⟩
  | refused (unclear : status ∉ [401, 429, 502, 503, 504]) (known : ¬ NoModel status said)
    (short : ¬ TooLong status said) : Comes status said ⟨.refused status, said⟩

private theorem comes_fault (status : Int) (body : Text.Bytes) :
    Comes status (message body) (fault status body) := by
  have marked : (lengthMarks.any fun m => Text.holds m.toList
      (Text.lowerForSearch (message body).toList)) = true ↔
        ∃ mark ∈ lengthMarks, Mentions (message body) mark := List.any_eq_true
  unfold fault
  dsimp only
  split_ifs with unauthorized frequent gateway missing large
  · exact .invalidKey unauthorized
  · exact .rateLimited frequent
  · exact .unavailable gateway
  · exact .modelNotFound missing
  · exact .contextTooLong ⟨large.1, marked.mp large.2⟩
  · refine .refused ?_ missing fun tooLong => large ⟨tooLong.1, marked.mpr tooLong.2⟩
    simp [unauthorized, frequent, not_or.mp gateway]

/-- A failure that may pass, as it need not have come of what was asked. -/
def MayPass (f : Fault) : Prop :=
  f.isA .rateLimited = true ∨ f.isA .unavailable = true ∨ ∃ code, f.kind = .refused code ∧ 500 ≤ code

/-- A failure that comes of what was asked. -/
def Stays (f : Fault) : Prop :=
  f.isA .invalidKey = true ∨ f.isA .modelNotFound = true ∨ f.isA .contextTooLong = true

/-- A failure that carries the message of a body. -/
def Speaks (f : Fault) : Prop :=
  f.isA .modelNotFound = true ∨ f.isA .contextTooLong = true ∨ ∃ code, f.kind = .refused code

namespace Comes

variable {said : String} {f : Fault} (comes : Comes status said f)
include comes

theorem modelWork : f.isA .modelWork = true := by
  cases comes <;> rfl

private theorem code_eq {code : Int} (refused : f.kind = .refused code) : code = status := by
  cases comes <;> cases refused
  rfl

private theorem infrequent_of_stays (stays : Stays f) : status < 500 ∧ status ≠ 429 := by
  cases comes with
  | invalidKey unauthorized => omega
  | modelNotFound missing =>
    have missing := missing.1
    omega
  | contextTooLong large =>
    have large := large.1
    omega
  | rateLimited | unavailable | refused =>
    rcases stays with unauthorized | missing | large
    · cases unauthorized
    · cases missing
    · cases large

private theorem not_mayPass (stays : Stays f) : ¬ MayPass f := by
  cases comes with
  | invalidKey | modelNotFound | contextTooLong =>
    rintro (frequent | gateway | ⟨_, refused, _⟩)
    · cases frequent
    · cases gateway
    · cases refused
  | rateLimited | unavailable | refused =>
    rcases stays with unauthorized | missing | large
    · cases unauthorized
    · cases missing
    · cases large

private theorem mayPass_iff : MayPass f ↔ 500 ≤ status ∨ status = 429 := by
  by_cases stays : Stays f
  · have infrequent := comes.infrequent_of_stays stays
    exact iff_of_false (comes.not_mayPass stays) (by omega)
  · cases comes with
    | invalidKey => exact absurd (.inl rfl) stays
    | modelNotFound => exact absurd (.inr (.inl rfl)) stays
    | contextTooLong => exact absurd (.inr (.inr rfl)) stays
    | rateLimited frequent => exact iff_of_true (.inl rfl) (.inr frequent)
    | unavailable gateway => exact iff_of_true (.inr (.inl rfl)) (.inl (by omega))
    | refused unclear =>
      constructor
      · rintro (frequent | gateway | ⟨_, ⟨rfl⟩, broken⟩)
        · cases frequent
        · cases gateway
        · exact .inl broken
      · rintro (broken | frequent)
        · exact .inr (.inr ⟨status, rfl, broken⟩)
        · exact absurd (by simp [frequent]) unclear

private theorem note_eq (speaks : Speaks f) : f.note = said := by
  cases comes with
  | modelNotFound | contextTooLong | refused => rfl
  | invalidKey | rateLimited | unavailable =>
    rcases speaks with missing | large | ⟨_, refused⟩
    · cases missing
    · cases large
    · cases refused

end Comes

/-! ### The failure and the next attempt -/

private theorem isFinal_eq_false : isFinal status = false ↔ 500 ≤ status ∨ status = 429 := by
  rw [isFinal, Bool.and_eq_false_iff, decide_eq_false_iff_not, decide_eq_false_iff_not, not_not, not_lt]

/-- A failure says of a status and a body what it should, and agrees with the choice whether to try
again. -/
structure Agreed (status : Int) (body : Text.Bytes) (f : Fault) : Prop where
  comes : Comes status (message body) f
  modelWork : f.isA .modelWork = true
  code : ∀ code, f.kind = .refused code → code = status
  again : isFinal status = false ↔ MayPass f
  ends : Stays f → isFinal status = true
  explains : Speaks f → Explains body f.note

private theorem agreed_fault (status : Int) (body : Text.Bytes) : Agreed status body (fault status body) := by
  have comes := comes_fault status body
  exact
    { comes
      modelWork := comes.modelWork
      code := fun _ refused => comes.code_eq refused
      again := isFinal_eq_false.trans comes.mayPass_iff.symm
      ends := fun stays => by
        have infrequent := comes.infrequent_of_stays stays
        rw [isFinal, decide_eq_true infrequent.1, decide_eq_true infrequent.2, Bool.and_self]
      explains := fun speaks => comes.note_eq speaks ▸ explains_message body }

private theorem isTooDeep_iff : isTooDeep status body = true ↔
    status ∉ [401, 429, 502, 503, 504] ∧ Json.isTooDeep (Text.decodeReplacing body) = true := by
  rw [isTooDeep, tellsAll, Bool.and_eq_true, Bool.not_eq_true', List.contains_eq_mem,
    decide_eq_false_iff_not]

/-- What is made of a refusal, and what an attempt to which it is the answer comes to. -/
inductive Made (status : Int) (body : Text.Bytes) : Except Fault Fault → Transport.Verdict → Prop where
  /-- A failure that agrees with the choice. The body can be read, or the status tells all. -/
  | agrees {f : Fault} (clear : status ∈ [401, 429, 502, 503, 504] ∨
      Json.isTooDeep (Text.decodeReplacing body) = false) (agreed : Agreed status body f) :
    Made status body (.ok f) (if isFinal status then .failure f else .again f)
  /-- Nothing is made of a body that is looked at and is too deep, and there is no other attempt
  whatever the status is. -/
  | tooDeep (unclear : status ∉ [401, 429, 502, 503, 504])
      (deep : Json.isTooDeep (Text.decodeReplacing body) = true) :
    Made status body (.error (.of .tooDeep)) (.failure (.of .tooDeep))

/-- An answer that is no success is judged by what is made of it. -/
theorem agreed (status : Int) (body : Text.Bytes) (unsuccessful : ¬ (200 ≤ status ∧ status < 300)) :
    Made status body (read status body) (Transport.verdict (.answer status body)) := by
  rw [Transport.verdict, if_neg unsuccessful]
  cases deep : isTooDeep status body with
  | true =>
    have read : read status body = .error (.of .tooDeep) := if_pos deep
    rw [read]
    exact .tooDeep (isTooDeep_iff.mp deep).1 (isTooDeep_iff.mp deep).2
  | false =>
    have read : read status body = .ok (fault status body) := if_neg (by simp [deep])
    rw [read]
    refine .agrees ?_ (agreed_fault status body)
    by_contra neither
    obtain ⟨unclear, deep'⟩ := not_or.mp neither
    exact absurd (isTooDeep_iff.mpr ⟨unclear, by simpa using deep'⟩) (by simp [deep])

private theorem isTooDeep_opened {count : Nat} (many : deepest < count) :
    Json.isTooDeep (Text.decodeReplacing (List.replicate count 0x5B)) = true := by
  have ascii : ∀ b ∈ List.replicate count (0x5B : UInt8), b.toNat < 0x80 := fun b member => by
    rw [List.eq_of_mem_replicate member]
    decide
  rw [Text.decodeReplacing_ascii ascii, List.map_replicate, ← List.append_nil (List.replicate _ _)]
  exact isTooDeep_brackets many []

/-- A body of nothing but brackets makes of a request that was refused a failure which is none of
those that are listed. -/
theorem agreed_brackets : ¬ (200 ≤ (400 : Int) ∧ (400 : Int) < 300) ∧
    read 400 (List.replicate 20000 0x5B) = .error (.of .tooDeep) ∧
    (Fault.of .tooDeep).isA .modelWork = false := by
  have unsuccessful : ¬ (200 ≤ (400 : Int) ∧ (400 : Int) < 300) := by decide
  have many : deepest < 20000 := by decide
  have deep := isTooDeep_opened many
  refine ⟨unsuccessful, ?_, rfl⟩
  have made := agreed 400 (List.replicate 20000 0x5B) unsuccessful
  generalize read 400 (List.replicate 20000 0x5B) = told,
    Transport.verdict (.answer 400 (List.replicate 20000 0x5B)) = judged at made ⊢
  cases made with
  | agrees clear =>
    rcases clear with listed | shallow
    · exact absurd listed (by decide)
    · cases deep.symm.trans shallow
  | tooDeep => rfl

end MemoAssist.Refusal

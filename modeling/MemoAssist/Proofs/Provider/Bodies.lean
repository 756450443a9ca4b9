import MemoAssist.Proofs.Json.RoundTrip
import MemoAssist.Proofs.Provider.Calls

namespace MemoAssist

open Json

variable {fields more : Fields} {key name : String} {n : Number}

/-! ### What is found in a body -/

def textUnder (key : String) (fields : Fields) : Option String :=
  match find? key fields with
  | some (.str s) => some s
  | _ => none

def itemsUnder (key : String) (fields : Fields) : Option (List Json) :=
  match find? key fields with
  | some (.arr items) => some items
  | _ => none

def fieldsUnder (key : String) (fields : Fields) : Fields :=
  match find? key fields with
  | some (.obj inner) => inner
  | _ => []

/-- What stands for a number in a request: itself if it is positive, and otherwise nothing. -/
def given (n : Number) : Option Json := if n.isPositive then some (.num n) else none

theorem find?_append : find? key (fields ++ more) = (find? key fields).or (find? key more) := by
  induction fields with
  | nil => rfl
  | cons field fields ih =>
    obtain ⟨name, value⟩ := field
    rw [List.cons_append, find?, find?]
    split
    · rfl
    · exact ih

theorem find?_whenPositive :
    find? key (Provider.whenPositive name n) = if name = key then given n else none := by
  unfold Provider.whenPositive given
  by_cases positive : n.isPositive = true
  · rw [if_pos positive, if_pos positive]
    rfl
  · rw [if_neg positive, if_neg positive, ite_self]
    rfl

theorem keys_whenPositive : ((Provider.whenPositive name n).map Prod.fst).Sublist [name] := by
  unfold Provider.whenPositive
  split
  · exact List.Sublist.refl _
  · exact List.nil_sublist _

theorem readable_whenPositive (legible : n.isPositive = true → n.Legible)
    (short : ∀ field ∈ Provider.whenPositive name n, field.2.hasLongNumber = false) :
    ∀ field ∈ Provider.whenPositive name n, field.2.Readable := by
  unfold Provider.whenPositive at short ⊢
  split at short
  · next positive =>
    rw [if_pos positive]
    rw [List.forall_mem_singleton] at short ⊢
    exact (legible positive).faithful short
  · next zero =>
    rw [if_neg zero]
    exact nofun

/-- A field that is left out for a reason. -/
theorem find?_unless {absent : Prop} [Decidable absent] {v : Json} :
    find? key (if absent then [] else [(name, v)]) =
      if name = key then if absent then none else some v else none := by
  split <;> simp [find?]

theorem keys_unless {absent : Prop} [Decidable absent] {v : Json} :
    ((if absent then [] else [(name, v)]).map Prod.fst).Sublist [name] := by
  split
  · exact List.nil_sublist _
  · exact List.Sublist.refl _

theorem readable_unless {absent : Prop} [Decidable absent] {v : Json}
    (readable : v.hasLongNumber = false → v.Readable)
    (short : ∀ field ∈ (if absent then [] else [(name, v)]), field.2.hasLongNumber = false) :
    ∀ field ∈ (if absent then [] else [(name, v)]), field.2.Readable := by
  by_cases left : absent
  · rw [if_pos left]
    exact nofun
  · rw [if_neg left, List.forall_mem_singleton] at short ⊢
    exact readable short

/-- An object whose keys are among these, each once, is read back if its values are. -/
theorem readable_obj {names : List String} (keys : (fields.map Prod.fst).Sublist names)
    (apart : names.Nodup) (each : ∀ field ∈ fields, field.2.Readable) : (Json.obj fields).Readable :=
  ⟨keys.nodup apart, fieldsReadable_iff.mpr each⟩

theorem short_obj (short : (Json.obj fields).hasLongNumber = false) :
    ∀ field ∈ fields, field.2.hasLongNumber = false := fieldsHaveLongNumber_iff.mp short

/-- Three numbers under keys of their own. -/
theorem readable_numbers {a b c : String} {k m n : Number} (apart : [a, b, c].Nodup)
    (first : k.isPositive = true → k.Legible) (second : m.isPositive = true → m.Legible)
    (third : n.isPositive = true → n.Legible)
    (short : (Json.obj (Provider.whenPositive a k ++ Provider.whenPositive b m ++
      Provider.whenPositive c n)).hasLongNumber = false) :
    (Json.obj (Provider.whenPositive a k ++ Provider.whenPositive b m ++
      Provider.whenPositive c n)).Readable := by
  have short := short_obj short
  refine readable_obj ?_ apart ?_
  · rw [List.map_append, List.map_append]
    exact (keys_whenPositive.append keys_whenPositive).append keys_whenPositive
  · rw [List.forall_mem_append, List.forall_mem_append] at short ⊢
    exact ⟨⟨readable_whenPositive first short.1.1, readable_whenPositive second short.1.2⟩,
      readable_whenPositive third short.2⟩

/-- An object that is left out when it is empty. -/
theorem fieldsUnder_unless {inner : Fields}
    (found : find? key fields = if inner.isEmpty then none else some (.obj inner)) :
    fieldsUnder key fields = inner := by
  rw [fieldsUnder, found]
  by_cases empty : inner.isEmpty = true
  · rw [if_pos empty]
    exact (List.isEmpty_iff.mp empty).symm
  · rw [if_neg empty]

private theorem mapM_made {α β γ : Type} {make : α → β} {read : β → Option γ} {view : α → γ}
    {items : List α}
    (one : ∀ a ∈ items, read (make a) = some (view a)) :
    (items.map make).mapM read = some (items.map view) := by
  induction items with
  | nil => rfl
  | cons a items ih =>
    obtain ⟨first, later⟩ := List.forall_mem_cons.mp one
    rw [List.map_cons, List.mapM_cons, first, ih later]
    rfl

/-- The options of a chat, each under the name that a backend has for it. -/
structure Options (r : CompletionRequest) (maxTokens temperature topP : String) (fields : Fields) :
    Prop where
  maxTokens : find? maxTokens fields = given r.maxTokens
  temperature : find? temperature fields = given r.temperature
  topP : find? topP fields = given r.topP

/-- The numbers of a chat that go into a request are read back from their text. -/
def CompletionRequest.Legible (r : CompletionRequest) : Prop :=
  ∀ n ∈ [r.maxTokens, r.temperature, r.topP], n.isPositive = true → n.Legible

/-- The contents of the messages that instruct the system. -/
def instructed (messages : List Message) : List String :=
  (messages.filter fun m => m.role = .system).map Message.content

/-- The messages of the conversation itself. -/
def spoken (messages : List Message) : List Message := messages.filter fun m => m.role ≠ .system

/-- Who says what. -/
def Message.turn (m : Message) : String × String := (m.role.word, m.content)

namespace OpenAI

/-- Who says what in a message of a body. -/
def turn? : Json → Option (String × String)
  | .obj message => do return (← textUnder "role" message, ← textUnder "content" message)
  | _ => none

def turns? (body : Fields) : Option (List (String × String)) :=
  (itemsUnder "messages" body).bind (List.mapM turn?)

private theorem turn?_messageFields (m : Message) : turn? (messageFields m) = some m.turn := by
  simp [turn?, messageFields, textUnder, find?, Message.turn]

/-- Messages that are listed are told in their order. -/
theorem turns?_of_listed {body : Fields} {messages : List Message}
    (listed : find? "messages" body = some (.arr (messages.map messageFields))) :
    turns? body = some (messages.map Message.turn) := by
  have items : itemsUnder "messages" body = some (messages.map messageFields) := by
    rw [itemsUnder, listed]
  rw [turns?, items]
  exact mapM_made fun m _ => turn?_messageFields m

private theorem readable_messageFields (m : Message) : (messageFields m).Readable :=
  ⟨by simp, trivial, trivial, trivial⟩

private theorem readable_messages (messages : List Message) :
    (Json.arr (messages.map messageFields)).Readable := by
  refine allReadable_iff.mpr fun item member => ?_
  obtain ⟨m, -, rfl⟩ := List.mem_map.mp member
  exact readable_messageFields m

variable {τ : Type}

/-- What the body of a request for a chat tells. -/
structure Conveys (p : Provider τ) (r : CompletionRequest) (body : Fields) : Prop where
  model : textUnder "model" body = some (ProviderConfig.orDefault r.model p.defaultModel)
  turns : turns? body = some (r.messages.map Message.turn)
  options : Options r "max_tokens" "temperature" "top_p" body

variable {p : Provider τ} {r : CompletionRequest}

/-- The fields of the request for a chat. -/
def completionFields (p : Provider τ) (r : CompletionRequest) : Fields :=
  [("model", .str (ProviderConfig.orDefault r.model p.defaultModel)),
    ("messages", .arr (r.messages.map messageFields))]
    ++ Provider.whenPositive "max_tokens" r.maxTokens
    ++ Provider.whenPositive "temperature" r.temperature
    ++ Provider.whenPositive "top_p" r.topP

theorem conveys (p : Provider τ) (r : CompletionRequest) : Conveys p r (completionFields p r) where
  model := by simp [textUnder, completionFields, find?]
  turns := turns?_of_listed (by simp [completionFields, find?])
  options := by
    constructor <;> simp [completionFields, find?, find?_append, find?_whenPositive]

theorem readable_completion (legible : r.Legible)
    (short : (Json.obj (completionFields p r)).hasLongNumber = false) :
    (Json.obj (completionFields p r)).Readable := by
  have short := short_obj short
  have keys : ((completionFields p r).map Prod.fst).Sublist
      ["model", "messages", "max_tokens", "temperature", "top_p"] := by
    simp only [completionFields, List.map_append]
    exact ((List.Sublist.refl _).append keys_whenPositive).append keys_whenPositive
      |>.append keys_whenPositive
  refine readable_obj keys (by decide) ?_
  simp only [completionFields, List.forall_mem_append, List.forall_mem_cons] at short ⊢
  obtain ⟨⟨⟨-, maxTokens⟩, temperature⟩, topP⟩ := short
  exact ⟨⟨⟨⟨trivial, readable_messages _, nofun⟩,
    readable_whenPositive (legible _ (by simp)) maxTokens⟩,
    readable_whenPositive (legible _ (by simp)) temperature⟩,
    readable_whenPositive (legible _ (by simp)) topP⟩

end OpenAI

namespace Anthropic

variable {τ : Type} {messages : List Message}

/-- What the body of a request for a chat tells. The instructions travel apart. -/
structure Conveys (p : Provider τ) (r : CompletionRequest) (body : Fields) : Prop where
  model : textUnder "model" body = some (ProviderConfig.orDefault r.model p.defaultModel)
  turns : OpenAI.turns? body = some ((spoken r.messages).map Message.turn)
  /-- The instructions that are not empty, a blank line between two of them. -/
  system : (instructed r.messages).filter (· ≠ "") ≠ [] →
    find? "system" body = some (.str ("\n\n".intercalate ((instructed r.messages).filter (· ≠ ""))))
  bare : (instructed r.messages).filter (· ≠ "") = [] → find? "system" body = none
  /-- There is a number of tokens in any case. -/
  maxTokens : find? "max_tokens" body =
    some (.num (if r.maxTokens.isPositive then r.maxTokens else .int 4096))
  temperature : find? "temperature" body = given r.temperature
  topP : find? "top_p" body = given r.topP

/-- Texts that are not empty make no empty text together. -/
theorem intercalate_eq_empty {sep : String} {texts : List String} (filled : ∀ text ∈ texts, text ≠ "") :
    sep.intercalate texts = "" ↔ texts = [] := by
  match texts with
  | [] => exact iff_of_true String.intercalate_nil rfl
  | [text] =>
    rw [String.intercalate_singleton]
    exact iff_of_false (filled text List.mem_cons_self) (List.cons_ne_nil _ _)
  | text :: next :: rest =>
    refine iff_of_false (fun empty => filled text List.mem_cons_self ?_) (List.cons_ne_nil _ _)
    rw [String.intercalate_cons_cons, String.append_eq_empty_iff, String.append_eq_empty_iff] at empty
    exact empty.1.1

private theorem instructions_eq_empty :
    instructions messages = "" ↔ (instructed messages).filter (· ≠ "") = [] :=
  intercalate_eq_empty fun text member => by simpa using List.of_mem_filter member

variable {p : Provider τ} {r : CompletionRequest}

/-- The fields of the request for a chat. -/
def completionFields (p : Provider τ) (r : CompletionRequest) : Fields :=
  [("model", .str (ProviderConfig.orDefault r.model p.defaultModel)),
    ("messages", .arr ((conversation r.messages).map OpenAI.messageFields)),
    ("max_tokens", .num (if r.maxTokens.isPositive then r.maxTokens else .int usualMaxTokens))]
    ++ (if instructions r.messages = "" then [] else [("system", .str (instructions r.messages))])
    ++ Provider.whenPositive "temperature" r.temperature
    ++ Provider.whenPositive "top_p" r.topP

private theorem find?_system : find? "system" (completionFields p r) =
    if instructions r.messages = "" then none else some (.str (instructions r.messages)) := by
  simp [completionFields, find?, find?_append, find?_whenPositive, find?_unless]

theorem conveys (p : Provider τ) (r : CompletionRequest) : Conveys p r (completionFields p r) where
  model := by simp [textUnder, completionFields, find?]
  turns := OpenAI.turns?_of_listed (by simp [completionFields, find?, spoken, conversation])
  system filled := by
    rw [find?_system, if_neg (mt instructions_eq_empty.mp filled)]
    rfl
  bare empty := by rw [find?_system, if_pos (instructions_eq_empty.mpr empty)]
  maxTokens := by simp [completionFields, find?, usualMaxTokens]
  temperature := by simp [completionFields, find?, find?_append, find?_whenPositive, find?_unless]
  topP := by simp [completionFields, find?, find?_append, find?_whenPositive, find?_unless]

theorem readable_completion (legible : r.Legible)
    (short : (Json.obj (completionFields p r)).hasLongNumber = false) :
    (Json.obj (completionFields p r)).Readable := by
  have short := short_obj short
  have keys : ((completionFields p r).map Prod.fst).Sublist
      ["model", "messages", "max_tokens", "system", "temperature", "top_p"] := by
    simp only [completionFields, List.map_append]
    exact ((List.Sublist.refl _).append keys_unless).append keys_whenPositive
      |>.append keys_whenPositive
  refine readable_obj keys (by decide) ?_
  simp only [completionFields, List.forall_mem_append, List.forall_mem_cons] at short ⊢
  obtain ⟨⟨⟨⟨-, -, maxTokens, -⟩, system⟩, temperature⟩, topP⟩ := short
  refine ⟨⟨⟨⟨trivial, OpenAI.readable_messages _, Number.Legible.faithful ?_ maxTokens, nofun⟩,
    readable_unless (fun _ => trivial) system⟩,
    readable_whenPositive (legible _ (by simp)) temperature⟩,
    readable_whenPositive (legible _ (by simp)) topP⟩
  split
  · next positive => exact legible _ (by simp) positive
  · trivial

end Anthropic

namespace Gemini

/-- The text of a part. -/
def said? : Json → Option String
  | .obj part => textUnder "text" part
  | _ => none

/-- Who says what in a content, one text for each of its parts. -/
def turn? : Json → Option (String × List String)
  | .obj content => do
    return (← textUnder "role" content, ← (← itemsUnder "parts" content).mapM said?)
  | _ => none

def turns? (body : Fields) : Option (List (String × List String)) :=
  (itemsUnder "contents" body).bind (List.mapM turn?)

/-- The texts of the parts of the instructions. -/
def instructions? (body : Fields) : Option (List String) :=
  (itemsUnder "parts" (fieldsUnder "systemInstruction" body)).bind (List.mapM said?)

/-- Who says what in a message, the assistant being the model. -/
def turn (m : Message) : String × List String :=
  (if m.role = .assistant then "model" else m.role.word, [m.content])

variable {τ : Type}

/-- What a request for a chat tells. The model is in its address, and instructions travel apart. -/
structure Conveys (p : Provider τ) (r : CompletionRequest) (url : String) (body : Fields) : Prop where
  model : url = p.address ++ "/" ++ modelPath (ProviderConfig.orDefault r.model p.defaultModel) ++
    ":generateContent"
  turns : turns? body = some ((spoken r.messages).map turn)
  system : instructed r.messages ≠ [] → instructions? body = some (instructed r.messages)
  bare : instructed r.messages = [] → find? "systemInstruction" body = none
  options : Options r "maxOutputTokens" "temperature" "topP" (fieldsUnder "generationConfig" body)

variable {p : Provider τ} {r : CompletionRequest}

/-- The fields of the request for a chat. -/
def completionFields (r : CompletionRequest) : Fields :=
  [("contents", .arr ((spoken r.messages).map contentOf))]
    ++ (if (instructionParts r.messages).isEmpty then []
        else [("systemInstruction", .obj [("parts", .arr (instructionParts r.messages))])])
    ++ (if (generationFields r).isEmpty then [] else [("generationConfig", .obj (generationFields r))])

private theorem said?_textPart (text : String) : said? (textPart text) = some text := by
  simp [said?, textPart, textUnder, find?]

private theorem turn?_contentOf {m : Message} (part : m.role ≠ .system) :
    turn? (contentOf m) = some (turn m) := by
  have role : textUnder "role" [("role", .str (roleWord m.role)), ("parts", .arr [textPart m.content])] =
      some (turn m).1 := by
    cases asked : m.role with
    | system => exact absurd asked part
    | user | assistant => simp [textUnder, find?, roleWord, turn, asked, Role.word]
  have parts : itemsUnder "parts" [("role", .str (roleWord m.role)),
      ("parts", .arr [textPart m.content])] = some [textPart m.content] := by
    simp [itemsUnder, find?]
  have said : [textPart m.content].mapM said? = some [m.content] := by
    rw [List.mapM_cons, said?_textPart]
    rfl
  simp only [turn?, contentOf, role, parts, said, Option.bind_eq_bind, Option.bind_some]
  rfl

private theorem isEmpty_instructionParts {messages : List Message} :
    (instructionParts messages).isEmpty = true ↔ instructed messages = [] := by
  rw [List.isEmpty_iff, instructionParts, instructed, List.map_eq_nil_iff, List.map_eq_nil_iff]

private theorem find?_systemInstruction : find? "systemInstruction" (completionFields r) =
    if (instructionParts r.messages).isEmpty then none
    else some (.obj [("parts", .arr (instructionParts r.messages))]) := by
  simp [completionFields, find?, find?_append, find?_unless]

private theorem fieldsUnder_generationConfig :
    fieldsUnder "generationConfig" (completionFields r) = generationFields r :=
  fieldsUnder_unless (by simp [completionFields, find?, find?_append, find?_unless])

theorem conveys (p : Provider τ) (r : CompletionRequest) :
    Conveys p r (completionAsk p r).url (completionFields r) where
  model := rfl
  turns := by
    have listed : itemsUnder "contents" (completionFields r) =
        some ((spoken r.messages).map contentOf) := by
      simp [itemsUnder, completionFields, find?]
    rw [turns?, listed]
    exact mapM_made fun m member => turn?_contentOf (by simpa using List.of_mem_filter member)
  system filled := by
    have parts : fieldsUnder "systemInstruction" (completionFields r) =
        [("parts", .arr (instructionParts r.messages))] := by
      rw [fieldsUnder, find?_systemInstruction, if_neg (mt isEmpty_instructionParts.mp filled)]
    have listed : itemsUnder "parts" [("parts", .arr (instructionParts r.messages))] =
        some (instructionParts r.messages) := by
      simp [itemsUnder, find?]
    rw [instructions?, parts, listed]
    exact mapM_made fun m _ => said?_textPart m.content
  bare empty := by rw [find?_systemInstruction, if_pos (isEmpty_instructionParts.mpr empty)]
  options := by
    rw [fieldsUnder_generationConfig]
    constructor <;> simp [generationFields, find?_append, find?_whenPositive]

private theorem readable_textPart (text : String) : (textPart text).Readable := ⟨by simp, trivial, trivial⟩

private theorem readable_contentOf (m : Message) : (contentOf m).Readable :=
  ⟨by simp, trivial, ⟨readable_textPart _, trivial⟩, trivial⟩

theorem readable_completion (legible : r.Legible)
    (short : (Json.obj (completionFields r)).hasLongNumber = false) :
    (Json.obj (completionFields r)).Readable := by
  have short := short_obj short
  have keys : ((completionFields r).map Prod.fst).Sublist
      ["contents", "systemInstruction", "generationConfig"] := by
    simp only [completionFields, List.map_append]
    exact ((List.Sublist.refl _).append keys_unless).append keys_unless
  refine readable_obj keys (by decide) ?_
  simp only [completionFields, List.forall_mem_append, List.forall_mem_singleton] at short ⊢
  obtain ⟨⟨-, system⟩, generation⟩ := short
  refine ⟨⟨?_, readable_unless (fun _ => ?_) system⟩, readable_unless ?_ generation⟩
  · refine allReadable_iff.mpr fun item member => ?_
    obtain ⟨m, -, rfl⟩ := List.mem_map.mp member
    exact readable_contentOf m
  · refine ⟨by simp, allReadable_iff.mpr fun part member => ?_, trivial⟩
    obtain ⟨m, -, rfl⟩ := List.mem_map.mp member
    exact readable_textPart m.content
  · exact readable_numbers (by decide) (legible _ (by simp)) (legible _ (by simp)) (legible _ (by simp))

end Gemini

namespace Ollama

variable {τ : Type}

/-- What the body of a request for a chat tells. The numbers are among the options. -/
structure Conveys (p : Provider τ) (r : CompletionRequest) (body : Fields) : Prop where
  model : textUnder "model" body = some (ProviderConfig.orDefault r.model p.defaultModel)
  turns : OpenAI.turns? body = some (r.messages.map Message.turn)
  options : Options r "num_predict" "temperature" "top_p" (fieldsUnder "options" body)

variable {p : Provider τ} {r : CompletionRequest}

/-- The fields of the request for a chat. -/
def completionFields (p : Provider τ) (r : CompletionRequest) : Fields :=
  [("model", .str (ProviderConfig.orDefault r.model p.defaultModel)),
    ("messages", .arr (r.messages.map OpenAI.messageFields)),
    ("stream", .bool false)]
    ++ (if (options r).isEmpty then [] else [("options", .obj (options r))])

private theorem fieldsUnder_options : fieldsUnder "options" (completionFields p r) = options r :=
  fieldsUnder_unless (by simp [completionFields, find?, find?_unless])

theorem conveys (p : Provider τ) (r : CompletionRequest) : Conveys p r (completionFields p r) where
  model := by simp [textUnder, completionFields, find?]
  turns := OpenAI.turns?_of_listed (by simp [completionFields, find?])
  options := by
    rw [fieldsUnder_options]
    constructor <;> simp [options, find?_append, find?_whenPositive]

theorem readable_completion (legible : r.Legible)
    (short : (Json.obj (completionFields p r)).hasLongNumber = false) :
    (Json.obj (completionFields p r)).Readable := by
  have short := short_obj short
  have keys : ((completionFields p r).map Prod.fst).Sublist
      ["model", "messages", "stream", "options"] := by
    simp only [completionFields, List.map_append]
    exact (List.Sublist.refl _).append keys_unless
  refine readable_obj keys (by decide) ?_
  simp only [completionFields, List.forall_mem_append, List.forall_mem_cons] at short ⊢
  refine ⟨⟨trivial, OpenAI.readable_messages _, trivial, nofun⟩, readable_unless ?_ short.2⟩
  exact readable_numbers (by decide) (legible _ (by simp)) (legible _ (by simp)) (legible _ (by simp))

end Ollama

end MemoAssist

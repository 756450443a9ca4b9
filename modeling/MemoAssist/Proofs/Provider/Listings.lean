import MemoAssist.Proofs.Json.Sorting
import MemoAssist.Proofs.Provider.Completions

namespace MemoAssist

open Json

variable {fields : Fields} {v : Json}

def EmbeddingResponse.texts (r : EmbeddingResponse) : List Json := [r.model]

theorem EmbeddingResponse.forall_texts {r : EmbeddingResponse} :
    (∀ v ∈ r.texts, v.IsText) ↔ r.model.IsText := by
  simp [texts]

namespace OpenAI

/-- The index that an item reports. -/
def index : Json → Json
  | .obj item => Provider.fieldOf item "index" (.int 0)
  | _ => .int 0

/-- Objects, in any order, whose indices can be brought in order. -/
def Sortable (v : Json) : Prop :=
  ∃ items, v.parts = .ok items ∧ (∀ item ∈ items, item.AnyObject) ∧
    ∃ sorted, inOrder (items.map fun item => (index item, item)) = .ok sorted

@[mk_iff] structure EmbeddingsFit (reply : Fields) : Prop where
  data : Under "data" (OrBlank Sortable) reply
  usage : Under "usage" (OrBlank AnyObject) reply
  model : Under "model" IsText reply

theorem indexed_ok {items : List Json} {keyed : List (Json × Json)} :
    indexed items = .ok keyed ↔
      (∀ item ∈ items, item.AnyObject) ∧ keyed = items.map fun item => (index item, item) := by
  unfold indexed
  induction items generalizing keyed with
  | nil =>
    simp only [List.mapM_nil, pure, Except.pure, Except.ok.injEq, List.map_nil]
    exact ⟨fun same => ⟨nofun, same.symm⟩, fun same => same.2.symm⟩
  | cons item rest ih =>
    rw [List.mapM_cons, List.forall_mem_cons]
    cases item with
    | obj own =>
      change (rest.mapM _ >>= fun others =>
        Except.ok ((index (.obj own), Json.obj own) :: others)) = Except.ok keyed ↔ _
      rw [bind_eq_ok]
      constructor
      · rintro ⟨others, read, same⟩
        obtain ⟨fit, rfl⟩ := ih.mp read
        cases same
        exact ⟨⟨trivial, fit⟩, rfl⟩
      · rintro ⟨⟨_, fit⟩, rfl⟩
        exact ⟨_, ih.mpr ⟨fit, rfl⟩, rfl⟩
    | _ => simp [field, AnyObject, bind, Except.bind]

theorem ends_inOrder (items : List (Json × Json)) :
    Ends Fault.IsStray (fun sorted => sorted.Perm items) (inOrder items) := by
  have fair : Sorting.Fair Fault.IsStray fun a b : Json × Json => Json.less a.1 b.1 :=
    fun _ _ => strays_less
  unfold inOrder
  dsimp only
  split
  · exact Sorting.ends_byRuns fair items
  · exact Sorting.ends_sort fair items

private theorem strays_indexed {items : List Json} : Strays (indexed items) := by
  unfold indexed
  apply Limits.mapM
  intro item
  exact strays_field.bind fun _ => trivial

private theorem strays_inOrder {items : List (Json × Json)} : Strays (inOrder items) :=
  (ends_inOrder items).imp fun _ _ => trivial

/-- Sorting moves the items, so that they are objects afterwards as they were before. -/
theorem sortable_iff : (∃ items, v.parts = .ok items ∧ ∃ keyed, indexed items = .ok keyed ∧
    ∃ sorted, inOrder keyed = .ok sorted ∧ ∀ keyed ∈ sorted, keyed.2.AnyObject) ↔ Sortable v := by
  constructor
  · rintro ⟨items, read, keyed, found, sorted, done, -⟩
    obtain ⟨objects, rfl⟩ := indexed_ok.mp found
    exact ⟨items, read, objects, sorted, done⟩
  · rintro ⟨items, read, objects, sorted, done⟩
    refine ⟨items, read, _, indexed_ok.mpr ⟨objects, rfl⟩, sorted, done, ?_⟩
    have perm := ends_inOrder (items.map fun item => (index item, item))
    rw [done] at perm
    intro keyed member
    obtain ⟨item, listed, rfl⟩ := List.mem_map.mp (List.Perm.mem_iff perm |>.mp member)
    exact objects item listed

private theorem sortable_orElse : Sortable (v.orElse (.arr [])) ↔ OrBlank Sortable v := by
  unfold orElse OrBlank
  cases v.isSet with
  | true => simp
  | false =>
    refine iff_of_true ?_ nofun
    exact ⟨[], rfl, nofun, [], rfl⟩

theorem decodes_embeddings : Decodes EmbeddingResponse.texts EmbeddingsFit readEmbeddings := by
  apply decodes_object
  · intro fields
    rw [embeddingsFit_iff]
    simp only [Provider.fieldOr, sound_bind strays_parts, sound_bind strays_indexed,
      sound_bind strays_inOrder, sound_bind (Limits.mapM fun _ => strays_ofField),
      sound_bind strays_readUsage, sound_pure, EmbeddingResponse.forall_texts, exists_and_right,
      mapM_ok, ofField_ok, readUsage_ok]
    simp only [← and_assoc, exists_and_right, sortable_iff, sortable_orElse, orBlank_fieldOf,
      isText_fieldOf]
  · intro fields
    exact Strays.accounted (strays_parts.bind fun _ => strays_indexed.bind fun _ =>
      strays_inOrder.bind fun _ => (Limits.mapM fun _ => strays_ofField).bind fun _ =>
      strays_readUsage.bind fun _ => trivial)

/-- An entry that is an object names a model by a text, if at all. -/
def ModelsFit : Fields → Prop := Under "data" (OrBlank (Each (IfObject (Under "id" IsText))))

private theorem chatModel_ok (entry : Json) :
    (∃ found, chatModel? entry = .ok found ∧ ∀ name ∈ found, name.IsText) ↔
      entry.IfObject (Under "id" IsText) := by
  cases entry with
  | obj own =>
    have known : (Provider.fieldOf own "id" (.str "")).IsText ↔ Under "id" IsText own := isText_fieldOf
    change (∃ found, (_ >>= _) = Except.ok found ∧ _) ↔ Under "id" IsText own
    rw [exists_bind, asString_ok, ← known, isText_iff]
    refine exists_congr fun name => and_iff_left ⟨_, rfl, ?_⟩
    intro found member
    split at member
    · cases member
      trivial
    · cases member
  | _ => simp [chatModel?, IfObject]

private theorem strays_chatModel {entry : Json} : Strays (chatModel? entry) := by
  cases entry with
  | obj own => exact strays_asString.bind fun _ => trivial
  | _ => trivial

theorem decodes_models : Decodes id ModelsFit readModels := by
  apply decodes_object
  · intro fields
    simp only [Provider.fieldOr, sound_bind strays_parts,
      sound_bind (Limits.mapM fun _ => strays_chatModel), sound_names, mapM_parts chatModel_ok,
      each_orElse, orBlank_fieldOf, ModelsFit]
  · intro fields
    exact Strays.accounted (strays_parts.bind fun _ =>
      (Limits.mapM fun _ => strays_chatModel).bind fun _ => trivial)

end OpenAI

namespace Gemini

def EmbeddingsFit : Fields → Prop := Under "embeddings" (OrBlank (Each AnyObject))

theorem decodes_embeddings (model : String) :
    Decodes EmbeddingResponse.texts EmbeddingsFit (readEmbeddings model) := by
  apply decodes_object
  · intro fields
    simp only [Provider.fieldOr, sound_bind strays_parts,
      sound_bind (Limits.mapM fun _ => strays_ofField), sound_pure, EmbeddingResponse.forall_texts,
      isText_str, and_true, mapM_ok, ofField_ok]
    exact each_orElse.trans orBlank_fieldOf
  · intro fields
    exact Strays.accounted (strays_parts.bind fun _ =>
      (Limits.mapM fun _ => strays_ofField).bind fun _ => trivial)

/-- What an entry can do, if it says so. -/
def methods (entry : Fields) : Json :=
  (Provider.fieldOf entry "supportedGenerationMethods" .null).orElse (.arr [])

/-- An entry tells what it can do by something with parts; what generates content has a text for a
name, if any. -/
def EntryFits : Json → Prop := IsObject fun entry =>
  (∃ items, (methods entry).parts = .ok items) ∧
    ((methods entry).mentions "generateContent" = .ok true → Under "name" IsText entry)

def ModelsFit : Fields → Prop := Under "models" (OrBlank (Each EntryFits))

/-- The name of an entry is read where it is a text. -/
theorem name_read (own : Fields) :
    (∃ found, (do
        let name ← (← (Json.obj own).field "name" (.str "")).asString
        return some (.str (modelName name)) : Except Fault (Option Json)) = .ok found ∧
      ∀ name ∈ found, name.IsText) ↔ Under "name" IsText own := by
  have known : (Provider.fieldOf own "name" (.str "")).IsText ↔ Under "name" IsText own :=
    isText_fieldOf
  rw [exists_bind, field_ok]
  change (∃ found, (_ >>= _) = Except.ok found ∧ _) ↔ _
  rw [exists_bind, asString_ok, ← known, isText_iff]
  refine exists_congr fun name => and_iff_left ⟨_, rfl, ?_⟩
  rintro _ ⟨⟩
  trivial

private theorem generator_ok (entry : Json) :
    (∃ found, generator? entry = .ok found ∧ ∀ name ∈ found, name.IsText) ↔ EntryFits entry := by
  cases entry with
  | obj own =>
    change (∃ found, ((methods own).mentions "generateContent" >>= _) = Except.ok found ∧ _) ↔
      (∃ items, (methods own).parts = .ok items) ∧ _
    rw [exists_bind, ← mentions_ok]
    cases mentioned : (methods own).mentions "generateContent" with
    | error f => simp
    | ok able =>
      cases able with
      | false => simp [pure, Except.pure]
      | true =>
        simpa using name_read own
  | _ => simp [generator?, field, EntryFits, IsObject, bind, Except.bind]

private theorem strays_generator {entry : Json} : Strays (generator? entry) := by
  apply strays_field.bind
  intro methods
  apply strays_mentions.bind
  intro able
  split
  · exact strays_field.bind fun _ => strays_asString.bind fun _ => trivial
  · trivial

theorem decodes_models : Decodes id ModelsFit readModels := by
  apply decodes_object
  · intro fields
    simp only [Provider.fieldOr, sound_bind strays_parts,
      sound_bind (Limits.mapM fun _ => strays_generator), sound_names, mapM_parts generator_ok,
      each_orElse, orBlank_fieldOf, ModelsFit]
  · intro fields
    exact Strays.accounted (strays_parts.bind fun _ =>
      (Limits.mapM fun _ => strays_generator).bind fun _ => trivial)

end Gemini

namespace Ollama

/-- The entries are objects, and their names of a shape. -/
def ModelsFit (name : Json → Prop) : Fields → Prop :=
  Under "models" (OrBlank (Each (IsObject (Under "name" name))))

/-- A name that can be looked for among others. -/
def Comparable : Json → Prop
  | .arr _ | .obj _ => False
  | _ => True

private theorem name_ok {name : Json → Prop} (fine : name (.str "")) (entry : Json) :
    (∃ value, entry.field "name" (.str "") = .ok value ∧ name value) ↔
      entry.IsObject (Under "name" name) := by
  rw [field_ok]
  cases entry with
  | obj own => exact under_iff fine
  | _ => exact Iff.rfl

private theorem comparable_str {s : String} : Comparable (.str s) := trivial

theorem decodes_models : Decodes id (ModelsFit IsText) readModels := by
  apply decodes_object
  · intro fields
    simp only [Provider.fieldOr, sound_bind strays_parts, sound_iff (Limits.mapM fun _ => strays_field),
      id, mapM_parts (name_ok isText_str), each_orElse, orBlank_fieldOf, ModelsFit]
  · intro fields
    exact Strays.accounted (strays_parts.bind fun _ => Limits.mapM fun _ => strays_field)

private theorem memberText_ok {name : Json} : (∃ text, memberText? name = .ok text) ↔ Comparable name := by
  cases name <;> simp [memberText?, Comparable]

private theorem strays_memberText {name : Json} : Strays (memberText? name) := by
  cases name with
  | arr items => exact isStray_illTyped
  | obj fields => exact isStray_illTyped
  | _ => trivial

/-- To look a model up, its names only have to be comparable. -/
theorem decodes_lists (model : String) :
    Decodes (fun _ => []) (ModelsFit Comparable) fun body => readModels body >>= lists model := by
  have read : (fun body => readModels body >>= lists model) = fun body =>
      Provider.readObject body "models" >>= fun fields =>
        (Provider.fieldOr fields "models" (.arr [])).parts >>= fun entries =>
          entries.mapM (fun entry => entry.field "name" (.str "")) >>= lists model := by
    funext body
    simp only [readModels, bind_assoc]
  rw [read]
  apply decodes_object
  · intro fields
    simp only [Provider.fieldOr, lists, sound_bind strays_parts,
      sound_bind (Limits.mapM fun _ => strays_field),
      sound_bind (Limits.mapM fun _ => strays_memberText), sound_pure, List.not_mem_nil,
      IsEmpty.forall_iff, implies_true, and_true, mapM_ok, memberText_ok,
      mapM_parts (name_ok comparable_str), each_orElse, orBlank_fieldOf, ModelsFit]
  · intro fields
    exact Strays.accounted (strays_parts.bind fun _ => (Limits.mapM fun _ => strays_field).bind
      fun _ => (Limits.mapM fun _ => strays_memberText).bind fun _ => trivial)

theorem decodes_version : Decodes (fun version => [version]) (Under "version" IsText) readVersion := by
  apply decodes_object
  · intro fields
    simp
  · intro fields
    trivial

/-- What has a front if it is not empty. -/
def IsSequence : Json → Prop
  | .arr _ | .str _ => True
  | _ => False

def EmbeddingFits : Fields → Prop := Under "embeddings" (OrBlank IsSequence)

def tokensIn (reply : Fields) : Json := Provider.fieldOf reply "prompt_eval_count" (.int 0)

/-- What comes of reading a body with an embedding. -/
inductive Reading (body : Text.Bytes) : Except Fault (Json × Json) → Prop
  | unreadable {f : Fault} (known : f.isA .modelWork = true) (any : ∀ inside, Fits inside body) :
      Reading body (.error f)
  | tooDeep (deep : areTooDeep body = true) : Reading body (.error (.of .tooDeep))
  | stray {fields : Fields} {f : Fault} (held : readBytes? body = some (.obj fields))
      (stray : f.IsStray) (misfit : ¬ EmbeddingFits fields) : Reading body (.error f)
  | vector {fields : Fields} {vector : Json} (held : readBytes? body = some (.obj fields))
      (fits : EmbeddingFits fields) : Reading body (.ok (vector, tokensIn fields))

/-- The vector that is in front of those in a reply. -/
def vectorIn (reply : Fields) : Except Fault Json :=
  let vectors := Provider.fieldOr reply "embeddings" (.arr [])
  if vectors.isSet then vectors.front else .ok (.arr [])

theorem readEmbedding_eq (body : Text.Bytes) :
    readEmbedding body = Provider.readObject body "embedding" >>= fun reply =>
      vectorIn reply >>= fun vector => .ok (vector, tokensIn reply) := by
  unfold readEmbedding vectorIn
  congr 1
  funext reply
  dsimp only
  split <;> rfl

private theorem strays_vectorIn {reply : Fields} : Strays (vectorIn reply) := by
  unfold vectorIn
  dsimp only
  split
  · exact strays_front
  · trivial

private theorem embeddingFits_iff {reply : Fields} :
    EmbeddingFits reply ↔ ∃ vector, vectorIn reply = .ok vector := by
  have blank : (Json.arr []).isSet = false := rfl
  unfold EmbeddingFits vectorIn
  rw [← orBlank_fieldOf, ← orBlank_orElse blank]
  change OrBlank IsSequence (Provider.fieldOr reply "embeddings" (.arr [])) ↔ _
  generalize Provider.fieldOr reply "embeddings" (.arr []) = vectors
  by_cases set : vectors.isSet = true
  · rw [if_pos set]
    match vectors with
    | .arr [] => cases set
    | .arr (_ :: _) | .str _ | .obj _ | .null | .bool _ | .num _ =>
      simp [OrBlank, set, front, IsSequence]
  · rw [if_neg set]
    exact iff_of_true (fun on => absurd on set) ⟨_, rfl⟩

theorem reading (body : Text.Bytes) : Reading body (readEmbedding body) := by
  rw [readEmbedding_eq]
  have read := objectRead "embedding" body
  generalize Provider.readObject body "embedding" = result at read ⊢
  cases read with
  | unreadable known fits => exact .unreadable known fits
  | tooDeep deep => exact .tooDeep deep
  | @held reply held =>
    change Reading body (vectorIn reply >>= fun vector => .ok (vector, tokensIn reply))
    have fits : EmbeddingFits reply ↔ _ := embeddingFits_iff
    have strays : Strays (vectorIn reply) := strays_vectorIn
    cases found : vectorIn reply with
    | error f =>
      rw [found] at strays fits
      exact .stray held strays fun h => nomatch fits.mp h
    | ok vector => exact .vector held (fits.mpr ⟨vector, found⟩)

end Ollama

end MemoAssist

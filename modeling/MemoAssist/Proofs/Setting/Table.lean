import MemoAssist.Proofs.Ending
import MemoAssist.Proofs.Entries
import MemoAssist.Setting.Table

namespace MemoAssist

/-- A form of entries in which they read like themselves. -/
structure Cell.Embeds {α : Type} [Cell α] (embed : Entry → α) : Prop where
  isSet_flag : ∀ b, Cell.isSet (embed (.flag b)) = b
  isSet_word : ∀ s, Cell.isSet (embed (.word s)) = decide (s ≠ "")
  word? : ∀ s, Cell.word? (embed (.word s)) = some s
  text : ∀ s, Cell.text (embed (.word s)) = .ok s
  fields? : ∀ all, Cell.fields? (embed (.fields all)) = some (all.map fun f => (f.1, embed (.word f.2)))

theorem Entry.embeds : Cell.Embeds (id : Entry → Entry) where
  isSet_flag _ := rfl
  isSet_word _ := rfl
  word? _ := rfl
  text _ := rfl
  fields? _ := rfl

private theorem ProviderKind.word_injective : Function.Injective ProviderKind.word := by
  intro kind other same
  have known := ofWord?_word kind
  rw [same, ofWord?_word] at known
  exact (Option.some.inj known).symm

namespace Setting

variable {α : Type} [Cell α] {embed : Entry → α} {table : List (String × Entry)} {name : String}
  {e : Entry}

/-- A table in another form. -/
def embedded (embed : Entry → α) (table : List (String × Entry)) : List (String × α) :=
  table.map fun entry => (entry.1, embed entry.2)

omit [Cell α] in
theorem keys_embedded : (embedded embed table).map Prod.fst = table.map Prod.fst := by
  rw [embedded, List.map_map]
  rfl

omit [Cell α] in
private theorem lookUp_there (distinct : (table.map Prod.fst).Nodup) (member : (name, e) ∈ table) :
    lookUp name (embedded embed table) = some (embed e) := by
  have there : (name, embed e) ∈ embedded embed table :=
    List.mem_map_of_mem (f := fun entry : String × Entry => (entry.1, embed entry.2)) member
  exact congrArg (Option.map Prod.snd) (find?_entry (by rwa [keys_embedded]) there)

omit [Cell α] in
theorem lookUp_missing (missing : name ∉ table.map Prod.fst) :
    lookUp name (embedded embed table) = none := by
  rw [lookUp, find?_eq_none_iff_key.mpr (by rwa [keys_embedded])]
  rfl

/-! ### The set-up of a family -/

/-- An empty field is left out, and a field that is left out is empty. -/
theorem fieldText_kept (embeds : Cell.Embeds embed) {pairs : List (String × String)}
    (distinct : (pairs.map Prod.fst).Nodup) {value : String} (member : (name, value) ∈ pairs) :
    fieldText ((pairs.filter fun f => f.2 ≠ "").map fun f => (f.1, embed (.word f.2))) name =
      .ok value := by
  have keys : ((pairs.filter fun f => f.2 ≠ "").map fun f => (f.1, embed (.word f.2))).map Prod.fst =
      (pairs.filter fun f => f.2 ≠ "").map Prod.fst := by
    rw [List.map_map]
    rfl
  by_cases blank : value = ""
  · have missing : name ∉ (pairs.filter fun f => f.2 ≠ "").map Prod.fst := by
      rw [List.mem_map]
      rintro ⟨f, kept, rfl⟩
      obtain ⟨inside, set⟩ := List.mem_filter.mp kept
      have same := entry_eq distinct inside member rfl
      exact of_decide_eq_true set ((congrArg Prod.snd same).trans blank)
    rw [fieldText, lookUp, find?_eq_none_iff_key.mpr (by rwa [keys]), blank]
    rfl
  · have kept : (name, value) ∈ pairs.filter fun f => f.2 ≠ "" :=
      List.mem_filter.mpr ⟨member, decide_eq_true blank⟩
    have there := List.mem_map_of_mem (f := fun f : String × String => (f.1, embed (.word f.2))) kept
    have few : ((pairs.filter fun f => f.2 ≠ "").map Prod.fst).Nodup :=
      distinct.sublist (List.filter_sublist.map Prod.fst)
    rw [fieldText, lookUp, find?_entry (by rwa [keys]) there]
    exact embeds.text value

/-- The fields of a set-up, empty or not. -/
def allFields (setup : ProviderSetting) : List (String × String) :=
  [("api_key", setup.apiKey), ("base_url", setup.baseUrl), ("default_model", setup.defaultModel),
   ("embedding_model", setup.embeddingModel), ("host", setup.host)]

def fieldNames : List String := ["api_key", "base_url", "default_model", "embedding_model", "host"]

private theorem distinct_allFields (setup : ProviderSetting) : ((allFields setup).map Prod.fst).Nodup :=
  (by decide : fieldNames.Nodup)

theorem keys_setupFields (setup : ProviderSetting) :
    ((setupFields setup).map Prod.fst).Sublist fieldNames := List.filter_sublist.map Prod.fst

private theorem setupOf_kept (embeds : Cell.Embeds embed) (setup : ProviderSetting) :
    setupOf ((setupFields setup).map fun f => (f.1, embed (.word f.2))) = .ok setup := by
  have kept : ∀ name value, (name, value) ∈ allFields setup →
      fieldText ((setupFields setup).map fun f => (f.1, embed (.word f.2))) name = .ok value :=
    fun name value member => fieldText_kept embeds (distinct_allFields setup) member
  rw [setupOf, kept "api_key" setup.apiKey (by simp [allFields]),
    kept "base_url" setup.baseUrl (by simp [allFields]),
    kept "default_model" setup.defaultModel (by simp [allFields]),
    kept "embedding_model" setup.embeddingModel (by simp [allFields]),
    kept "host" setup.host (by simp [allFields])]
  rfl

/-! ### Whole settings -/

/-- The entries that are not set-ups. -/
def lines (s : Setting) : List (String × Entry) :=
  (s.provider.map fun kind => ("provider", .word kind.word)).toList
    ++ [("enable_auto_tagging", .flag s.autoTagging), ("enable_auto_summary", .flag s.autoSummary),
        ("enable_semantic_search", .flag s.semanticSearch)]

def lineNames : List String :=
  ["provider", "enable_auto_tagging", "enable_auto_summary", "enable_semantic_search"]

theorem toTable_eq (s : Setting) :
    s.toTable = s.lines ++ ProviderKind.all.filterMap s.setupEntry := rfl

theorem keys_lines (s : Setting) : (s.lines.map Prod.fst).Sublist lineNames := by
  rw [lines]
  cases s.provider with
  | none => exact .cons _ (.refl _)
  | some kind => exact .refl _

private theorem keys_sections (s : Setting) (kinds : List ProviderKind) :
    ((kinds.filterMap s.setupEntry).map Prod.fst).Sublist (kinds.map ProviderKind.word) := by
  induction kinds with
  | nil => exact .slnil
  | cons kind kinds ih =>
    cases set : s.setup? kind with
    | none =>
      rw [List.filterMap_cons_none (by rw [setupEntry, set]; rfl)]
      exact ih.cons _
    | some setup =>
      rw [List.filterMap_cons_some (by rw [setupEntry, set]; rfl)]
      exact ih.cons_cons _

theorem distinct_toTable (s : Setting) : (s.toTable.map Prod.fst).Nodup := by
  have names : (lineNames ++ ProviderKind.all.map ProviderKind.word).Nodup := by decide
  rw [toTable_eq, List.map_append]
  exact names.sublist (s.keys_lines.append (s.keys_sections ProviderKind.all))

private theorem providerOf_kept (embeds : Cell.Embeds embed) (s : Setting) :
    providerOf (embedded embed s.toTable) = .ok s.provider := by
  cases wish : s.provider with
  | none =>
    have missing : "provider" ∉ s.toTable.map Prod.fst := by
      rw [toTable_eq, List.map_append, List.mem_append]
      rintro (flags | sections)
      · simp [lines, wish] at flags
      · exact absurd ((s.keys_sections ProviderKind.all).subset sections) (by decide)
    rw [providerOf, lookUp_missing missing]
  | some kind =>
    have member : ("provider", .word kind.word) ∈ s.toTable := by simp [toTable, wish]
    have set : kind.word ≠ "" := by cases kind <;> decide
    rw [providerOf, lookUp_there (distinct_toTable s) member]
    simp only [embeds.isSet_word, embeds.word?, set, ne_eq, not_false_eq_true, decide_true, if_true,
      Option.bind_some, ProviderKind.ofWord?_word]

/-- A family that is not set up has no section. -/
theorem missing_section {s : Setting} {kind : ProviderKind} (unset : s.setup? kind = none) :
    kind.word ∉ s.toTable.map Prod.fst := by
  rw [toTable_eq, List.map_append, List.mem_append]
  rintro (flags | sections)
  · have named := s.keys_lines.subset flags
    revert named
    cases kind <;> decide
  · obtain ⟨entry, member, same⟩ := List.mem_map.mp sections
    obtain ⟨other, -, made⟩ := List.mem_filterMap.mp member
    obtain ⟨setup, set, rfl⟩ := Option.map_eq_some_iff.mp made
    rw [ProviderKind.word_injective same, unset] at set
    cases set

theorem setupIn_kept (embeds : Cell.Embeds embed) (s : Setting) (kind : ProviderKind) :
    setupIn (embedded embed s.toTable) kind = .ok (s.setup? kind) := by
  cases set : s.setup? kind with
  | none =>
    rw [setupIn, lookUp_missing (missing_section set)]
    rfl
  | some setup =>
    have member : (kind.word, .fields (setupFields setup)) ∈ s.toTable := by
      refine List.mem_append_right _ (List.mem_filterMap.mpr ⟨kind, ?_, ?_⟩)
      · cases kind <;> decide
      · rw [setupEntry, set]
        rfl
    rw [setupIn, lookUp_there (distinct_toTable s) member, Option.bind_some, embeds.fields?]
    dsimp only
    rw [setupOf_kept embeds]
    rfl

private theorem flagIn_kept (embeds : Cell.Embeds embed) (s : Setting) {b : Bool}
    (member : (name, .flag b) ∈ s.toTable) : flagIn (embedded embed s.toTable) name = b := by
  rw [flagIn, lookUp_there (distinct_toTable s) member, Option.any_some, embeds.isSet_flag]

/-- What settings are written as is read as these settings. -/
theorem ofTable_kept (embeds : Cell.Embeds embed) (s : Setting) :
    ofTable (embedded embed s.toTable) = .ok s := by
  have flag : ∀ name b, (name, .flag b) ∈ s.lines → flagIn (embedded embed s.toTable) name = b :=
    fun name b member => flagIn_kept embeds s (List.mem_append_left _ member)
  rw [ofTable, providerOf_kept embeds, setupIn_kept embeds, setupIn_kept embeds, setupIn_kept embeds,
    setupIn_kept embeds, flag "enable_auto_tagging" s.autoTagging (by simp [lines]),
    flag "enable_auto_summary" s.autoSummary (by simp [lines]),
    flag "enable_semantic_search" s.semanticSearch (by simp [lines])]
  rfl

end Setting

end MemoAssist

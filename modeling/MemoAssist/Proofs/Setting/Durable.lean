import MemoAssist.Proofs.Text.Encoding
import MemoAssist.Proofs.Toml.Document

/-! Settings that are saved. The file that settings are written to is read as these settings, whatever
texts they hold, and a table of any values that is read as settings is as good as the one that they are
written as. -/
namespace MemoAssist

private theorem Entry.embeds_toml : Cell.Embeds Entry.toml where
  isSet_flag _ := rfl
  isSet_word _ := rfl
  word? _ := rfl
  text _ := rfl
  fields? _ := rfl

namespace Setting

open Toml

variable {α : Type} [Cell α] {d : List (String × α)} {v : α} {s : Setting}

/-! ### Files -/

/-- The fields of every family that is set up. -/
def sections (s : Setting) : List (String × List (String × String)) :=
  ProviderKind.all.filterMap fun kind =>
    (s.setup? kind).map fun setup => (kind.word, setupFields setup)

private theorem parts_sections (s : Setting) :
    parts s.sections = ProviderKind.all.filterMap s.setupEntry := by
  rw [parts, sections, List.map_filterMap]
  congr 1
  funext kind
  rw [Option.map_map]
  rfl

theorem plain_lines (s : Setting) : Plain s.lines := by
  intro entry member
  have bare : ∀ name ∈ lineNames, IsBare name := by decide
  refine ⟨bare _ (s.keys_lines.subset (List.mem_map_of_mem member)), ?_⟩
  rw [lines, List.mem_append, Option.mem_toList, Option.map_eq_some_iff] at member
  rcases member with ⟨kind, -, rfl⟩ | flags
  · trivial
  · simp only [List.mem_cons, List.not_mem_nil, or_false] at flags
    rcases flags with rfl | rfl | rfl <;> trivial

private theorem mem_sections {part : String × List (String × String)} (member : part ∈ s.sections) :
    ∃ (kind : ProviderKind) (setup : ProviderSetting), part = (kind.word, setupFields setup) := by
  obtain ⟨kind, -, made⟩ := List.mem_filterMap.mp member
  obtain ⟨setup, -, rfl⟩ := Option.map_eq_some_iff.mp made
  exact ⟨kind, setup, rfl⟩

private theorem tidy_sections (s : Setting) : Sections s.sections where
  bare part member := by
    obtain ⟨kind, setup, rfl⟩ := mem_sections member
    have bare : ∀ kind : ProviderKind, IsBare kind.word := by
      intro kind
      cases kind <;> decide
    exact bare kind
  inner part member f inside := by
    obtain ⟨kind, setup, rfl⟩ := mem_sections member
    have bare : ∀ name ∈ fieldNames, IsBare name := by decide
    exact bare f.1 ((keys_setupFields setup).subset (List.mem_map_of_mem inside))
  distinct part member := by
    obtain ⟨kind, setup, rfl⟩ := mem_sections member
    exact (by decide : fieldNames.Nodup).sublist (keys_setupFields setup)

private theorem read_document (s : Setting) : Toml.read s.document = .ok (found s.toTable) := by
  have distinct : (s.lines.map Prod.fst ++ s.sections.map Prod.fst).Nodup := by
    have all := distinct_toTable s
    rw [toTable_eq, ← parts_sections, List.map_append, parts, List.map_map] at all
    exact all
  rw [document, toTable_eq, ← parts_sections]
  exact read_writeTable (plain_lines s) (tidy_sections s) distinct

/-- The file that settings are written to is read as these settings. -/
theorem ofFile_document (s : Setting) (path : String) :
    ofFile path (Text.encode s.document) = .ok s := by
  rw [ofFile, Text.decode?_encode]
  dsimp only
  rw [ofDocument, read_document]
  exact ofTable_kept Entry.embeds_toml s

/-! ### The preferred family -/

private theorem provider_ofTable (accepted : ofTable d = .ok s) : providerOf d = .ok s.provider := by
  obtain ⟨wish, provider, accepted⟩ := bind_eq_ok.mp accepted
  obtain ⟨_, -, accepted⟩ := bind_eq_ok.mp accepted
  obtain ⟨_, -, accepted⟩ := bind_eq_ok.mp accepted
  obtain ⟨_, -, accepted⟩ := bind_eq_ok.mp accepted
  obtain ⟨_, -, accepted⟩ := bind_eq_ok.mp accepted
  rw [provider, ← Except.ok.inj accepted]

/-- What is not there, or does not count as a value, names no family. -/
theorem providerOf_unset (unset : ∀ v, lookUp "provider" d = some v → Cell.isSet v = false) :
    providerOf d = .ok none := by
  rw [providerOf]
  cases there : lookUp "provider" d with
  | none => rfl
  | some v => exact if_neg (by rw [unset v there]; decide)

/-- Values of other types become texts, and a flag that is off is no name. -/
example : ofTable [("provider", Toml.Value.flag false),
    ("openai", .table [("api_key", .number (.int 5)), ("host", .flag true)])] =
    .ok { openai := some { apiKey := "5", host := "True" } } := by decide +kernel

private theorem providerOf_known {kind : ProviderKind} (there : lookUp "provider" d = some v)
    (set : Cell.isSet v = true) (word : Cell.word? v = some kind.word) :
    providerOf d = .ok (some kind) := by
  rw [providerOf, there]
  dsimp only
  rw [if_pos set, word, Option.bind_some, ProviderKind.ofWord?_word]

/-- Whatever counts as a value and is not the name of a family is refused. -/
theorem ofTable_unknown (there : lookUp "provider" d = some v) (set : Cell.isSet v = true)
    (unknown : ∀ kind : ProviderKind, Cell.word? v ≠ some kind.word) :
    ofTable d = Cell.shown v >>= fun shown => .error (unknownProvider shown) := by
  have none : (Cell.word? v).bind ProviderKind.ofWord? = none := by
    cases word : Cell.word? v with
    | none => rfl
    | some w =>
      rw [Option.bind_some, ProviderKind.ofWord?, List.find?_eq_none]
      intro kind member same
      exact unknown kind (word.trans (congrArg some (of_decide_eq_true same).symm))
  have refused : providerOf d = Cell.shown v >>= fun shown => .error (unknownProvider shown) := by
    rw [providerOf, there]
    dsimp only
    rw [if_pos set, none]
    rfl
  rw [ofTable, refused]
  cases Cell.shown v <;> rfl

/-! ### All together -/

/-- What becomes of settings that are saved and of tables that are read. -/
structure Durable : Prop where
  /-- Nothing is lost in a file. -/
  file : ∀ (s : Setting) (path : String), ofFile path (Text.encode s.document) = .ok s
  /-- A table that is accepted, whatever values are in it, says no more than what is written for it. -/
  table : ∀ (d : Toml.Table) (s : Setting), ofTable d = .ok s → ofTable s.toTable = .ok s
  refused : ∀ (d : Toml.Table) (v : Toml.Value), lookUp "provider" d = some v → v.isSet = true →
    (∀ kind : ProviderKind, v ≠ .text kind.word) → ∃ f, ofTable d = .error f ∧ f.kind = .badValue
  unset : ∀ (d : Toml.Table) (s : Setting),
    (∀ v, lookUp "provider" d = some v → v.isSet = false) → ofTable d = .ok s → s.provider = none
  known : ∀ (d : Toml.Table) (s : Setting) (kind : ProviderKind),
    lookUp "provider" d = some (.text kind.word) → ofTable d = .ok s → s.provider = some kind

theorem durable : Durable where
  file := ofFile_document
  table d s accepted := by
    have kept : ofTable (s.toTable.map id) = .ok s := ofTable_kept Entry.embeds s
    rwa [List.map_id] at kept
  refused d v there set unknown := by
    have other : ∀ kind : ProviderKind, Cell.word? v ≠ some kind.word := by
      intro kind word
      cases v with
      | text s => exact unknown kind (congrArg Toml.Value.text (Option.some.inj word))
      | number | flag | moment | arr | table => cases word
    rw [ofTable_unknown there set other]
    rw [show Cell.shown v = Toml.Value.written Toml.Value.shown v from rfl, Toml.Value.written]
    split
    · exact ⟨_, rfl, rfl⟩
    · exact ⟨_, rfl, rfl⟩
  unset d s unset accepted := by
    have provider := provider_ofTable accepted
    rw [providerOf_unset unset] at provider
    exact (Except.ok.inj provider).symm
  known d s kind there accepted := by
    have set : Cell.isSet (Toml.Value.text kind.word) = true := by cases kind <;> decide
    have provider := provider_ofTable accepted
    rw [providerOf_known there set rfl] at provider
    exact (Except.ok.inj provider).symm

end Setting

end MemoAssist

import MemoAssist.Cli.Run
import MemoAssist.Proofs.Act
import MemoAssist.Proofs.Json.Layout
import MemoAssist.Proofs.Setting.Durable
import MemoAssist.Proofs.Setting.Redaction

/-! The settings on a terminal. What is printed of them can be read again, as a settings file or as JSON,
and gives the settings without their keys, so that it tells as much as these and no more. -/
namespace MemoAssist

/-! ### Settings as JSON -/

private theorem Entry.embeds_json : Cell.Embeds Entry.json where
  isSet_flag _ := rfl
  isSet_word _ := rfl
  word? _ := rfl
  text _ := rfl
  fields? _ := rfl

namespace Setting

open Json (Legible legible_str legible_bool legible_obj)

private theorem toJson_eq (s : Setting) : s.toJson = .obj (embedded Entry.json s.toTable) := rfl

/-- The keys of every table in a table are apart. -/
theorem distinct_inner (s : Setting) {name : String} {all : List (String × String)}
    (member : (name, .fields all) ∈ s.toTable) : (all.map Prod.fst).Nodup := by
  rw [toTable_eq, List.mem_append] at member
  rcases member with line | table
  · exact absurd (plain_lines s _ line).2 id
  · obtain ⟨kind, -, made⟩ := List.mem_filterMap.mp table
    obtain ⟨setup, -, same⟩ := Option.map_eq_some_iff.mp made
    cases same
    exact (by decide : fieldNames.Nodup).sublist (keys_setupFields setup)

private theorem legible_entry {e : Entry} (apart : ∀ all, e = .fields all → (all.map Prod.fst).Nodup)
    (depth : Nat) : Legible depth e.json := by
  cases e with
  | word s => exact legible_str depth s
  | flag b => exact legible_bool depth b
  | fields all =>
    refine legible_obj ?_ ?_
    · rw [List.map_map]
      exact apart all rfl
    · intro field member
      obtain ⟨f, -, rfl⟩ := List.mem_map.mp member
      exact legible_str _ f.2

private theorem legible_toJson (s : Setting) : Legible 0 s.toJson := by
  rw [toJson_eq]
  refine legible_obj ?_ ?_
  · rw [keys_embedded]
    exact distinct_toTable s
  · intro field member
    obtain ⟨⟨name, e⟩, there, rfl⟩ := List.mem_map.mp member
    refine legible_entry ?_ 1
    rintro all rfl
    exact s.distinct_inner there

/-- The JSON that settings are printed as is read as these settings. -/
theorem read?_toJson (s : Setting) : ∃ fields,
    Json.read? (s.toJson.writeIndented 0 ++ "\n").toList = some (.obj fields) ∧
      ofTable fields = .ok s :=
  ⟨_, Json.read?_laid s.legible_toJson, ofTable_kept Entry.embeds_json s⟩

end Setting

namespace Cli

variable {τ : Type} [TimeScale τ] {around around' : Surroundings} {config : Option String}
  {origin : Option FilePath} {s t : Setting} {json : Bool} {out : String} {i : Invocation}

/-! ### What is printed -/

/-- The settings that a command finds, with the path of their file unless there is none and they are
made of the environment. -/
inductive Finds (around : Surroundings) (config : Option String) :
    Option FilePath → Setting → Prop where
  | inFile {path : FilePath} {bytes : Text.Bytes} {s : Setting}
    (place : settingsPath around.env config = .ok path)
    (there : around.files.foundAt path = .ok (.file bytes))
    (read : Setting.ofFile path.text bytes = .ok s) : Finds around config (some path) s
  | inEnvironment {path : FilePath} (place : settingsPath around.env config = .ok path)
    (nothing : around.files.foundAt path = .ok .nothing) :
    Finds around config none around.env.detected

/-- The name of where settings are from. -/
def originName : Option FilePath → String
  | some path => path.text
  | none => "(detected from environment)"

/-- A text shows settings if they can be read from it, but for their keys. -/
structure Shows (json : Bool) (origin : Option FilePath) (s : Setting) (out : String) : Prop where
  asJson : json = true → ∃ fields, Json.read? out.toList = some (.obj fields) ∧
    Setting.ofTable fields = .ok s.redact
  asDocument : json = false → ∃ document, out = "# " ++ originName origin ++ "\n" ++ document ∧
    ∀ path, Setting.ofFile path (Text.encode document) = .ok s.redact

/-- What is shown of settings tells what they are but for their keys. -/
theorem Shows.sameButKeys (shows : Shows json origin s out) (shows' : Shows json origin t out) :
    s.SameButKeys t := by
  rw [← Setting.redact_eq_iff]
  cases json with
  | true =>
    obtain ⟨fields, read, first⟩ := shows.asJson rfl
    obtain ⟨others, read', second⟩ := shows'.asJson rfl
    obtain rfl := Json.obj.inj (Option.some.inj (read.symm.trans read'))
    exact Except.ok.inj (first.symm.trans second)
  | false =>
    obtain ⟨document, written, first⟩ := shows.asDocument rfl
    obtain ⟨other, written', second⟩ := shows'.asDocument rfl
    obtain rfl := (String.append_right_inj _).mp (written.symm.trans written')
    exact Except.ok.inj ((first "").symm.trans (second ""))

/-- What is printed of settings with masked keys. -/
def printed (json : Bool) (origin : Option FilePath) (masked : Setting) : String :=
  if json then masked.toJson.writeIndented 0 ++ "\n"
  else "# " ++ originName origin ++ "\n" ++ masked.document

private theorem shows_printed (json : Bool) (origin : Option FilePath) (s : Setting) :
    Shows json origin s (printed json origin s.redact) where
  asJson := by
    rintro rfl
    exact s.redact.read?_toJson
  asDocument := by
    rintro rfl
    exact ⟨_, rfl, s.redact.ofFile_document⟩

/-! ### Runs -/

/-- What is found is what is worked with, and the name of where it is from is printed with it. -/
theorem Finds.found (finds : Finds around config origin s) : ∃ path found,
    settingsPath around.env config = .ok path ∧ around.files.foundAt path = .ok found ∧
      settingsAt around.env path found = .ok s ∧
        sourceLine path found = "# " ++ originName origin := by
  cases finds with
  | inFile place there read => exact ⟨_, _, place, there, read, rfl⟩
  | inEnvironment place nothing => exact ⟨_, _, place, nothing, rfl, rfl⟩

omit [TimeScale τ] in
theorem withSetting_found {path : FilePath} {found : Found}
    {work : FilePath → Found → Setting → Act (Session τ) Status}
    (place : settingsPath around.env config = .ok path)
    (there : around.files.foundAt path = .ok found)
    (met : settingsAt around.env path found = .ok s) (session : Session τ) :
    withSetting around.env around.files config work session = work path found s session := by
  have first : Act.ofExcept (settingsPath around.env config) session = (.ok path, session) := by
    rw [place, Act.ofExcept_eq]
  have second : Act.ofExcept (around.files.foundAt path) session = (.ok found, session) := by
    rw [there, Act.ofExcept_eq]
  rw [withSetting, Act.bind_ok first, Act.bind_ok second, met]

private theorem run_showConfig (asked : i.command = .showConfig) (finds : Finds around i.config origin s)
    (world : World τ) : run around i world =
      ({ status := .done, out := printed i.json origin s.redact, err := "" }, world) := by
  obtain ⟨path, found, place, there, met, line⟩ := finds.found
  have out : "" ++ showSetting i.json path found s = printed i.json origin s.redact := by
    rw [String.empty_append, showSetting, line, printed]
  have work : perform around i { world } =
      (.ok .done, { world, out := printed i.json origin s.redact }) := by
    rw [perform, asked, ← out]
    exact withSetting_found place there met _
  rw [run, work]
  rfl

/-- The command ends well after it has shown settings, and does nothing else. -/
structure Displays (json : Bool) (origin : Option FilePath) (s : Setting) (world : World τ)
    (ended : Report × World τ) : Prop where
  done : ended.1.status = .done
  shows : Shows json origin s ended.1.out
  quiet : ended.1.err = "" ∧ ended.1.opsLog = none ∧ ended.1.unexpected = none
  idle : ended.2 = world

/-- Settings are shown without their keys, and runs over two of them come to the same if, and only if,
these are the same but for their keys. -/
theorem keys_unseen (asked : i.command = .showConfig) (finds : Finds around i.config origin s)
    (finds' : Finds around' i.config origin t) (world : World τ) :
    Displays i.json origin s world (run around i world) ∧
      (run around i world = run around' i world ↔ s.SameButKeys t) := by
  rw [run_showConfig asked finds, run_showConfig asked finds']
  have shows := shows_printed i.json origin s
  refine ⟨⟨rfl, shows, ⟨rfl, rfl, rfl⟩, rfl⟩, ?_, ?_⟩
  · intro same
    have out : printed i.json origin s.redact = printed i.json origin t.redact :=
      congrArg (fun ended => ended.1.out) same
    exact shows.sameButKeys (out ▸ shows_printed i.json origin t)
  · intro same
    rw [Setting.redact_eq_iff.mpr same]

/-- A place with settings in a file and nothing in the environment. -/
def keptIn (s : Setting) : Surroundings :=
  { env := { bindings := [], accounts := [], account := "" }
    input := ""
    files := [({ root := "/", parts := ["etc"] }, .folder),
      ({ root := "/", parts := ["etc", "memoai.toml"] }, .file (Text.encode s.document))] }

theorem finds_keptIn (s : Setting) :
    Finds (keptIn s) (some "/etc/memoai.toml") (some ⟨"/", ["etc", "memoai.toml"]⟩) s :=
  .inFile rfl rfl (s.ofFile_document _)

/-- Settings with two keys of different lengths in turn. -/
theorem keys_unseen_kept :
    let s : Setting := { openai := some { apiKey := "sk-1" }, ollama := some {} }
    let t : Setting := { openai := some { apiKey := "sk-22" }, ollama := some {} }
    let i : Invocation := { command := .showConfig, json := true, config := some "/etc/memoai.toml" }
    let origin : FilePath := ⟨"/", ["etc", "memoai.toml"]⟩
    let world : World Int := .start (Client.ofReplies [])
    i.command = .showConfig ∧ Finds (keptIn s) i.config (some origin) s ∧
      Finds (keptIn t) i.config (some origin) t ∧
      Displays i.json (some origin) s world (run (keptIn s) i world) ∧
      run (keptIn s) i world = run (keptIn t) i world ∧ s ≠ t := by
  intro s t i origin world
  have unseen := keys_unseen (i := i) rfl (finds_keptIn s) (finds_keptIn t) world
  have same : s.SameButKeys t := Setting.redact_eq_iff.mp (by decide)
  exact ⟨rfl, finds_keptIn s, finds_keptIn t, unseen.1, unseen.2.mpr same, by decide⟩

end Cli

end MemoAssist

import MemoAssist.Proofs.Setting.Reload

/-! Settings that are shown without their keys, and a form of them that is sent back. The mask hides
keys and nothing else, and wherever a form gives no key of its own it gets the stored one again. What a
mask is sent back for has to be stored: nothing else keeps it from being taken for a key. -/
namespace MemoAssist

/-- Set-ups that are the same, or differ only in keys that are there in both. -/
def ProviderSetting.SameButKey (setup other : ProviderSetting) : Prop :=
  setup = other ∨
    setup.apiKey ≠ "" ∧ other.apiKey ≠ "" ∧ { setup with apiKey := other.apiKey } = other

namespace Setting

variable {s t : Setting} {kind : ProviderKind} {setup other : ProviderSetting}

/-! ### Settings by their families -/

@[simp] theorem setup?_withSetups (s : Setting) (setups : ProviderKind → Option ProviderSetting)
    (kind : ProviderKind) : (s.withSetups setups).setup? kind = setups kind := by
  cases kind <;> rfl

/-- What settings say of no family in particular. -/
def preferences (s : Setting) : Setting := s.withSetups fun _ => none

private theorem ext_setups (preferences : s.preferences = t.preferences)
    (setups : ∀ kind, s.setup? kind = t.setup? kind) : s = t :=
  calc
    s = s.preferences.withSetups s.setup? := rfl
    _ = t.preferences.withSetups t.setup? := by rw [preferences, funext setups]
    _ = t := rfl

theorem setup?_redact (s : Setting) (kind : ProviderKind) :
    s.redact.setup? kind = (s.setup? kind).map redactKey := setup?_withSetups ..

/-- The set-up of a family in settings that may not be there. -/
def kept? (stored : Option Setting) (kind : ProviderKind) : Option ProviderSetting :=
  stored.bind fun s => s.setup? kind

private theorem setup?_preserveKeys (incoming : Setting) (stored : Option Setting) (kind : ProviderKind) :
    (preserveKeys incoming stored).setup? kind =
      (incoming.setup? kind).map (keepKey · (kept? stored kind)) := by
  cases stored with
  | none => exact Option.map_id'.symm
  | some stored => exact setup?_withSetups ..

private theorem preferences_preserveKeys (incoming : Setting) (stored : Option Setting) :
    (preserveKeys incoming stored).preferences = incoming.preferences := by
  cases stored <;> rfl

/-! ### What the mask hides -/

private theorem mask_ne_empty : mask ≠ "" := by decide

theorem redactKey_of_empty (empty : setup.apiKey = "") : redactKey setup = setup := if_pos empty

theorem redactKey_of_set (set : setup.apiKey ≠ "") :
    redactKey setup = { setup with apiKey := mask } := if_neg set

private theorem apiKey_redactKey_eq_empty : (redactKey setup).apiKey = "" ↔ setup.apiKey = "" := by
  by_cases empty : setup.apiKey = ""
  · rw [redactKey_of_empty empty]
  · rw [redactKey_of_set empty]
    exact iff_of_false mask_ne_empty empty

/-- With another key it makes no difference whether the first one was masked. -/
theorem rekey_redactKey (setup : ProviderSetting) (key : String) :
    { redactKey setup with apiKey := key } = { setup with apiKey := key } := by
  by_cases empty : setup.apiKey = ""
  · rw [redactKey_of_empty empty]
  · rw [redactKey_of_set empty]

private theorem redactKey_eq_iff : redactKey setup = redactKey other ↔ setup.SameButKey other := by
  constructor
  · intro same
    have both : setup.apiKey = "" ↔ other.apiKey = "" := by
      rw [← apiKey_redactKey_eq_empty, same, apiKey_redactKey_eq_empty]
    by_cases empty : setup.apiKey = ""
    · rw [redactKey_of_empty empty, redactKey_of_empty (both.mp empty)] at same
      exact .inl same
    · refine .inr ⟨empty, mt both.mpr empty, ?_⟩
      rw [← rekey_redactKey, same, rekey_redactKey]
  · rintro (rfl | ⟨set, set', same⟩)
    · rfl
    · rw [redactKey_of_set set, redactKey_of_set set', ← same]

/-- Settings that differ in nothing but keys that are there in both. -/
structure SameButKeys (s t : Setting) : Prop where
  preferences : s.preferences = t.preferences
  setups : ∀ kind, Option.Rel ProviderSetting.SameButKey (s.setup? kind) (t.setup? kind)

private theorem map_redactKey_eq_iff {setup? other? : Option ProviderSetting} :
    setup?.map redactKey = other?.map redactKey ↔
      Option.Rel ProviderSetting.SameButKey setup? other? := by
  cases setup? <;> cases other? <;> simp [redactKey_eq_iff]

/-- The mask hides what the keys are, and it hides nothing else. -/
theorem redact_eq_iff : s.redact = t.redact ↔ s.SameButKeys t := by
  constructor
  · intro same
    have preferences : s.redact.preferences = t.redact.preferences := by rw [same]
    refine ⟨preferences, fun kind => map_redactKey_eq_iff.mp ?_⟩
    rw [← setup?_redact, same, setup?_redact]
  · intro alike
    refine ext_setups alike.preferences fun kind => ?_
    rw [setup?_redact, setup?_redact, map_redactKey_eq_iff]
    exact alike.setups kind

/-! ### A form that is sent back -/

private theorem keepKey_of_untouched (untouched : isUntouched setup.apiKey = true) :
    keepKey setup (some other) = { setup with apiKey := other.apiKey } := if_pos untouched

private theorem keepKey_of_touched (touched : isUntouched setup.apiKey = false) :
    keepKey setup (some other) = setup := if_neg (by rw [touched]; decide)

theorem isUntouched_iff {key : String} : isUntouched key = true ↔ key = "" ∨ key = mask := by
  simp [isUntouched]

/-- A key that is shown counts as untouched. -/
theorem isUntouched_redactKey (setup : ProviderSetting) :
    isUntouched (redactKey setup).apiKey = true := by
  rw [isUntouched_iff]
  by_cases empty : setup.apiKey = ""
  · rw [redactKey_of_empty empty]
    exact .inl empty
  · rw [redactKey_of_set empty]
    exact .inr rfl

/-- What may become of a key in a form: it is left as it is shown, it is cleared, or another is given
in its place. -/
inductive KeyEdited (shown : String) : (given : Option String) → (edited : String) → Prop where
  | left : KeyEdited shown none shown
  | cleared : KeyEdited shown none ""
  | replaced {key : String} (set : key ≠ "") (unmasked : key ≠ mask) :
    KeyEdited shown (some key) key

/-- The stored key is put back unless one was given. -/
theorem keepKey_edited {given : Option String}
    (edited : KeyEdited (redactKey other).apiKey given setup.apiKey) :
    keepKey setup (some other) = { setup with apiKey := given.getD other.apiKey } := by
  generalize now : setup.apiKey = key at edited
  cases edited with
  | left => exact keepKey_of_untouched (now ▸ isUntouched_redactKey other)
  | cleared => exact keepKey_of_untouched (isUntouched_iff.mpr (.inl now))
  | replaced set unmasked =>
    have touched : isUntouched setup.apiKey = false := by
      rw [Bool.eq_false_iff, ne_eq, isUntouched_iff, now]
      exact not_or.mpr ⟨set, unmasked⟩
    rw [keepKey_of_touched touched, Option.getD_some, ← now]

/-- Settings that come back from a form in which others were shown. The keys are edited as they may be,
all other fields, the preferred family and the flags in any way. No family is added. -/
def Edited (shown : Setting) (given : ProviderKind → Option String) (edited : Setting) : Prop :=
  ∀ kind setup, edited.setup? kind = some setup → ∃ before, shown.setup? kind = some before ∧
    KeyEdited before.apiKey (given kind) setup.apiKey

/-- The settings of a form with the keys that they are to be stored with. -/
structure Restored (stored edited : Setting) (given : ProviderKind → Option String)
    (result : Setting) : Prop where
  preferences : result.preferences = edited.preferences
  /-- Of all fields only the key may be another one: the one that was given, or else the stored one. -/
  setups : ∀ kind setup, edited.setup? kind = some setup → ∃ before,
    stored.setup? kind = some before ∧
      result.setup? kind = some { setup with apiKey := (given kind).getD before.apiKey }
  unset : ∀ kind, edited.setup? kind = none → result.setup? kind = none

variable {stored edited : Setting} {given : ProviderKind → Option String}

theorem Edited.restored (changes : Edited stored.redact given edited) :
    Restored stored edited given (preserveKeys edited (some stored)) where
  preferences := preferences_preserveKeys ..
  setups kind setup there := by
    obtain ⟨shown, before, key⟩ := changes kind setup there
    rw [setup?_redact, Option.map_eq_some_iff] at before
    obtain ⟨before, known, rfl⟩ := before
    refine ⟨before, known, ?_⟩
    rw [setup?_preserveKeys, there, Option.map_some, kept?, Option.bind_some, known,
      keepKey_edited key]
  unset kind missing := by rw [setup?_preserveKeys, missing, Option.map_none]

/-- A form that is sent back as it was shown. -/
theorem edited_redact (s : Setting) : Edited s.redact (fun _ => none) s.redact :=
  fun _ setup there => ⟨setup, there, .left⟩

/-- The stored settings are all that such a form can be restored to. -/
theorem Restored.eq_stored {result : Setting}
    (restored : Restored stored stored.redact (fun _ => none) result) : result = stored := by
  refine ext_setups restored.preferences fun kind => ?_
  cases known : stored.setup? kind with
  | none =>
    refine restored.unset kind ?_
    rw [setup?_redact, known, Option.map_none]
  | some setup =>
    have there : stored.redact.setup? kind = some (redactKey setup) := by
      rw [setup?_redact, known, Option.map_some]
    obtain ⟨before, same, result⟩ := restored.setups kind _ there
    obtain rfl := Option.some.inj (known.symm.trans same)
    rw [result, Option.getD_none, rekey_redactKey]

/-- A form that is sent back as it was shown changes nothing. Of one that was edited everything is taken
over, and where it gives no key of its own the stored one is kept. -/
theorem keys_restored (s : Setting) :
    preserveKeys s.redact (some s) = s ∧
      ∀ (given : ProviderKind → Option String) (edited : Setting), Edited s.redact given edited →
        Restored s edited given (preserveKeys edited (some s)) :=
  ⟨(edited_redact s).restored.eq_stored, fun _ _ changes => changes.restored⟩

/-- Settings with four keys, one of which looks like the mask. -/
def keyed : Setting :=
  { provider := some .openai
    openai := some { apiKey := "sk-1", defaultModel := "gpt-4o" }
    anthropic := some { apiKey := mask }
    gemini := some { apiKey := "g-1" }
    ollama := some { host := "http://localhost:11434" } }

/-- Of a form the first key was cleared, the third replaced, and another model and host filled in. -/
theorem keys_restored_keyed :
    let edited : Setting :=
      { provider := some .gemini
        openai := some { apiKey := "", defaultModel := "gpt-5" }
        anthropic := some { apiKey := mask }
        gemini := some { apiKey := "g-2" }
        ollama := some { host := "http://box:11434" }
        autoTagging := true }
    let given : ProviderKind → Option String := fun kind =>
      if kind = .gemini then some "g-2" else none
    Edited keyed.redact given edited ∧
      Restored keyed edited given (preserveKeys edited (some keyed)) ∧
      preserveKeys edited (some keyed) =
        { edited with openai := some { apiKey := "sk-1", defaultModel := "gpt-5" } } := by
  intro edited given
  have changes : Edited keyed.redact given edited := by
    intro kind setup there
    cases kind with
    | openai =>
      obtain rfl := Option.some.inj there
      exact ⟨_, rfl, .cleared⟩
    | anthropic | ollama =>
      obtain rfl := Option.some.inj there
      exact ⟨_, rfl, .left⟩
    | gemini =>
      obtain rfl := Option.some.inj there
      exact ⟨_, rfl, .replaced (by decide) (by decide)⟩
  exact ⟨changes, (keys_restored keyed).2 given edited changes, by decide⟩

/-! ### Masks that are left -/

/-- The mask stands in the place of a family's key. -/
def Masks (s : Setting) (kind : ProviderKind) : Prop :=
  ∃ setup, s.setup? kind = some setup ∧ setup.apiKey = mask

private theorem apiKey_keepKey_eq_mask {incoming : ProviderSetting} {kept : Option ProviderSetting}
    (unmasked : ∀ setup, kept = some setup → setup.apiKey ≠ mask) :
    (keepKey incoming kept).apiKey = mask ↔ incoming.apiKey = mask ∧ kept = none := by
  cases kept with
  | none => exact (and_iff_left rfl).symm
  | some setup =>
    refine iff_of_false ?_ fun left => nomatch left.2
    cases untouched : isUntouched incoming.apiKey with
    | true =>
      rw [keepKey_of_untouched untouched]
      exact unmasked setup rfl
    | false =>
      rw [keepKey_of_touched untouched]
      intro masked
      rw [isUntouched_iff.mpr (.inr masked)] at untouched
      cases untouched

variable {incoming : Setting} {stored : Option Setting}

/-- A mask is left where it came in for a family that nothing is stored of, and nowhere else. -/
theorem masks_preserveKeys_iff (unmasked : ∀ s, stored = some s → ∀ kind, ¬ s.Masks kind) :
    (preserveKeys incoming stored).Masks kind ↔ incoming.Masks kind ∧ kept? stored kind = none := by
  have kept : ∀ setup, kept? stored kind = some setup → setup.apiKey ≠ mask := by
    intro setup there masked
    obtain ⟨s, known, there⟩ := Option.bind_eq_some_iff.mp there
    exact unmasked s known kind ⟨setup, there, masked⟩
  simp only [Masks, setup?_preserveKeys]
  cases incoming.setup? kind with
  | none => simp
  | some setup => simpa using apiKey_keepKey_eq_mask kept

variable (τ : Type) [TimeScale τ]

/-- A provider has the key of its set-up for a credential, but for a local one, which has none. -/
theorem apiKey_made (setup : ProviderSetting) (kind : ProviderKind) :
    (Provider.create (setup.config kind) : Provider τ).apiKey =
      if kind = .ollama then "" else setup.apiKey := by
  cases kind with
  | openai | anthropic | gemini => exact Provider.orDefault_empty setup.apiKey
  | ollama => rfl

/-- Where masks are left in the place of keys, in settings and in the providers that are made of them. -/
structure MasksLeft (incoming : Setting) (stored : Option Setting) (result : Setting) : Prop where
  key : ∀ kind, result.Masks kind ↔ incoming.Masks kind ∧ kept? stored kind = none
  credential : ∀ kind p, (result.loaded τ).find? kind = some p →
    (p.apiKey = mask ↔ kind ≠ .ollama ∧ incoming.Masks kind ∧ kept? stored kind = none)

/-- No mask takes the place of a key that is stored. One that comes in for a family without anything
stored is taken for a key and becomes a credential. -/
theorem masks_left (unmasked : ∀ s, stored = some s → ∀ kind, ¬ s.Masks kind) :
    MasksLeft τ incoming stored (preserveKeys incoming stored) where
  key _ := masks_preserveKeys_iff unmasked
  credential kind p made := by
    rw [find?_loaded, provider?, Option.map_eq_some_iff] at made
    obtain ⟨setup, there, rfl⟩ := made
    rw [← masks_preserveKeys_iff unmasked, Masks, there, apiKey_made]
    by_cases localKind : kind = .ollama
    · simp [localKind, Ne.symm mask_ne_empty]
    · simp [localKind]

/-- A mask that comes in for a remote family, while only a local one is stored. -/
theorem masks_left_unstored :
    let incoming : Setting := { openai := some { apiKey := mask } }
    let stored : Setting := { ollama := some {} }
    (∀ s, some stored = some s → ∀ kind, ¬ s.Masks kind) ∧
      MasksLeft Int incoming (some stored) (preserveKeys incoming (some stored)) ∧
      (preserveKeys incoming (some stored)).Masks .openai ∧
      ∃ p : Provider Int, ((preserveKeys incoming (some stored)).loaded Int).find? .openai = some p ∧
        p.apiKey = mask ∧ p.isConfigured = true := by
  intro incoming stored
  have unmasked : ∀ s, some stored = some s → ∀ kind, ¬ s.Masks kind := by
    rintro s same kind ⟨setup, there, masked⟩
    obtain rfl := Option.some.inj same
    cases kind with
    | openai | anthropic | gemini => cases there
    | ollama =>
      obtain rfl := Option.some.inj there
      exact absurd masked (by decide)
  have left : MasksLeft Int incoming (some stored) _ := masks_left Int unmasked
  have unbacked : incoming.Masks .openai ∧ kept? (some stored) .openai = none := ⟨⟨_, rfl, rfl⟩, rfl⟩
  refine ⟨unmasked, left, (left.key .openai).mpr unbacked, _, find?_loaded .., rfl, by decide⟩

end Setting

end MemoAssist

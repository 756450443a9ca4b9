import MemoAssist.Proofs.Act
import MemoAssist.Proofs.Entries
import MemoAssist.Registry.Basic

namespace MemoAssist.Registry

variable {P : Type} {r : Registry P} {kind : ProviderKind} {p : P} {word : String}

/-- The families that are registered, in the order in which they first were. -/
def kinds (r : Registry P) : List ProviderKind := r.entries.map Prod.fst

theorem puts : Puts (@put P) where
  empty _ _ := rfl
  here _ _ _ _ := if_pos rfl
  elsewhere _ _ _ _ _ apart := if_neg apart

theorem find?_eq_none_iff : r.find? kind = none ↔ kind ∉ r.kinds := by
  rw [find?, Option.map_eq_none_iff]
  exact find?_eq_none_iff_key

theorem find?_isSome_iff : (r.find? kind).isSome = true ↔ kind ∈ r.kinds := by
  rw [← not_iff_not, ← find?_eq_none_iff, Bool.not_eq_true, Option.isSome_eq_false_iff,
    Option.isNone_iff_eq_none]

/-! ### Activating -/

theorem setActive_registered (registered : kind ∈ r.kinds) :
    r.setActive kind = .ok { r with active := some kind } :=
  if_pos (find?_isSome_iff.mpr registered)

theorem setActive_missing (missing : kind ∉ r.kinds) :
    r.setActive kind = .error (notRegistered kind.word) :=
  if_neg fun found => missing (find?_isSome_iff.mp found)

theorem activate_known (known : ProviderKind.ofWord? word = some kind) :
    r.activate word = r.setActive kind := by
  rw [activate, ProviderKind.ofWord, known]
  rfl

theorem activate_unknown (unknown : ProviderKind.ofWord? word = none) :
    r.activate word = .error (.of .unknownName) := by
  rw [activate, ProviderKind.ofWord, unknown]
  rfl

/-- A word that names no family, or none that is registered. -/
theorem named_missing
    (missing : ∀ kind, ProviderKind.ofWord? word = some kind → kind ∉ r.kinds) :
    r.named word = .error (notRegistered word) := by
  rw [named]
  cases known : ProviderKind.ofWord? word with
  | none => rfl
  | some kind =>
    rw [Option.bind_some, find?_eq_none_iff.mpr (missing kind known)]

theorem named_known (known : ProviderKind.ofWord? word = some kind) (found : r.find? kind = some p) :
    r.named word = .ok p := by
  rw [named, known, Option.bind_some, found]

/-! ### Registering -/

theorem find?_put (active : Option ProviderKind) (other : ProviderKind) :
    find? ⟨put kind p r.entries, active⟩ other = if other = kind then some p else r.find? other := by
  rw [find?, puts.find?_put]
  split <;> rfl

theorem kinds_put (active : Option ProviderKind) : kinds ⟨put kind p r.entries, active⟩ =
    if kind ∈ r.kinds then r.kinds else r.kinds ++ [kind] :=
  puts.keys_put

/-! ### Answering -/

variable [Registrable P] {σ α : Type} {work : P → Act σ α}

/-- The one provider that is active and configured does the work. -/
theorem answer_ready (current : r.current? = some p) (ready : Registrable.isConfigured p = true) :
    r.answer work = work p := by
  have chosen : r.resolve = .ok p := by
    rw [resolve, current]
    exact if_pos ready
  funext s
  rw [answer, chosen, Act.bind_ok (Act.ofExcept_eq _ _)]

/-- Without one nobody does any. -/
theorem answer_unready (unready : ∀ p, r.current? = some p → Registrable.isConfigured p = false) :
    r.answer work = Act.fail (.of .notConfigured) := by
  have refused : r.resolve = .error (.of .notConfigured) := by
    rw [resolve]
    split
    · next p current => rw [unready p current]; rfl
    · rfl
  funext s
  rw [answer, refused, Act.bind_error (Act.ofExcept_eq _ _)]
  rfl

end MemoAssist.Registry

import MemoAssist.Cli.Run

/-! Where state and settings are. The log of failures is in the folder where state is kept, and the
command line and the library look for settings at the same path, as long as what the environment says
about it does not begin with the sign for a home directory: not everybody puts the directory in. -/
namespace MemoAssist

namespace Environment

/-- Home directories are known by their paths from the root. -/
def Rooted (env : Environment) : Prop :=
  ∀ name home, FilePath.homeOf? env name = some home → home.toList.head? = some '/'

end Environment

namespace FilePath

variable {env : Environment} {p q : FilePath} {s : String}

/-- A path that begins with the sign for somebody's home directory. -/
def startsAtHome (p : FilePath) : Bool :=
  p.root = "" && p.parts.head?.any fun first => first.toList.head? = some '~'

private theorem startsAtHome_iff : p.startsAtHome = true ↔
    ∃ first name rest, p = ⟨"", first :: rest⟩ ∧ first.toList = '~' :: name := by
  obtain ⟨root, parts⟩ := p
  constructor
  · intro sign
    obtain ⟨start, sign⟩ := (Bool.and_eq_true _ _).mp sign
    obtain rfl := of_decide_eq_true start
    cases parts with
    | nil => cases sign
    | cons first rest =>
      obtain ⟨name, named⟩ := List.head?_eq_some_iff.mp (of_decide_eq_true sign)
      exact ⟨first, name, rest, rfl, named⟩
  · rintro ⟨first, name, rest, same, named⟩
    cases same
    simp [startsAtHome, named]

/-! ### Home directories -/

/-- Only the sign for a home directory gives way to anything. -/
theorem expanded_of_plain (plain : p.startsAtHome = false) : p.expanded env = .ok p := by
  unfold expanded
  split
  · next first rest root parts =>
    split
    · next name named =>
      have sign : p.startsAtHome = true :=
        startsAtHome_iff.mpr ⟨first, name, rest, by rw [← root, ← parts], named⟩
      exact absurd (plain.symm.trans sign) Bool.false_ne_true
    · rfl
  · rfl

private theorem root_read (rooted : s.toList.head? = some '/') : (read s).root ≠ "" := by
  obtain ⟨rest, slash⟩ := List.head?_eq_some_iff.mp rooted
  change rootOf s.toList ≠ ""
  rw [slash, rootOf, List.takeWhile_cons_of_pos (by rfl)]
  split <;> simp_all

/-- A path from the root is one without the slashes at its end too, unless nothing is left of it. -/
theorem head?_withoutSlashes (rooted : s.toList.head? = some '/') (left : withoutSlashes s ≠ "") :
    (withoutSlashes s).toList.head? = some '/' := by
  have front : (withoutSlashes s).toList <+: s.toList := by
    rw [withoutSlashes, String.toList_ofList]
    exact List.reverse_suffix.mp (by simpa using List.dropWhile_suffix _)
  cases kept : (withoutSlashes s).toList with
  | nil => exact absurd (String.toList_eq_nil_iff.mp kept) left
  | cons c rest =>
    obtain ⟨more, whole⟩ := kept ▸ front
    rw [← whole] at rooted
    exact rooted

/-- What takes the place of the sign is a path from the root. -/
theorem root_expanded (rooted : env.Rooted) (sign : p.startsAtHome = true)
    (made : p.expanded env = .ok q) : q.root ≠ "" := by
  obtain ⟨first, name, rest, rfl, named⟩ := startsAtHome_iff.mp sign
  simp only [expanded, named] at made
  split at made
  · cases made
  · next home known =>
    have start : (if withoutSlashes home = "" then "/" else withoutSlashes home).toList.head? =
        some '/' := by
      split
      · rfl
      · next left => exact head?_withoutSlashes (rooted _ _ known) left
    generalize (if withoutSlashes home = "" then "/" else withoutSlashes home) = directory at made start
    split at made
    · cases made
    · obtain rfl := Except.ok.inj made
      exact root_read start

/-- A path that stands for another from the same start does not begin with the sign. -/
theorem plain_of_root (rooted : env.Rooted) (made : p.expanded env = .ok q) (same : q.root = p.root) :
    p.startsAtHome = false := by
  refine Bool.eq_false_iff.mpr fun sign => root_expanded rooted sign made ?_
  obtain ⟨first, name, rest, rfl, -⟩ := startsAtHome_iff.mp sign
  exact same

end FilePath

/-! ### Places -/

namespace Environment

variable {env : Environment}

/-- What a variable says, if anything, is a path that does not begin with the sign. -/
def Plain (env : Environment) (name : String) : Prop :=
  ∀ path, env.set? name = some path → (FilePath.read path).startsAtHome = false

/-- Where the log of failures is, beside the folder where state is kept, and where the command line looks
for settings, beside the usual path for them. That no folder is known for either counts too. -/
structure Placed (env : Environment) : Prop where
  errorLog : env.Plain "MEMOAI_HOME" → env.errorLogPath = env.home.map (·.append [errorLogName])
  settings : env.Plain "MEMOAI_CONFIG" → Cli.settingsPath env none = env.settingsPath
  errorLogAlone : env.Rooted → env.errorLogPath = env.home.map (·.append [errorLogName]) →
    env.Plain "MEMOAI_HOME"
  settingsAlone : env.Rooted → Cli.settingsPath env none = env.settingsPath →
    env.Plain "MEMOAI_CONFIG"

/-- Paths for the same agree where the environment gives them without the sign for a home directory. With
it they differ, because a home directory is put in only in one place of two. -/
theorem placed (env : Environment) : env.Placed where
  errorLog plain := by
    rw [errorLogPath, home]
    cases said : env.set? "MEMOAI_HOME" with
    | none => rcases env.usualHome with f | p <;> rfl
    | some path =>
      dsimp only
      rw [FilePath.expanded_of_plain (plain path said)]
      rfl
  settings plain := by
    rw [Cli.settingsPath, Option.none_or, settingsPath]
    cases said : env.set? "MEMOAI_CONFIG" with
    | none => rfl
    | some path => exact (FilePath.expanded_of_plain (plain path said)).symm
  errorLogAlone rooted agree := by
    intro path said
    rw [errorLogPath, home, said] at agree
    cases made : (FilePath.read path).expanded env with
    | error f =>
      simp only [made] at agree
      cases agree
    | ok p =>
      simp only [made] at agree
      exact FilePath.plain_of_root rooted made (congrArg FilePath.root (Except.ok.inj agree)).symm
  settingsAlone rooted agree := by
    intro path said
    rw [Cli.settingsPath, Option.none_or, settingsPath, said] at agree
    exact FilePath.plain_of_root rooted agree.symm rfl

/-- State and settings are given with the sign for the home directory. It is put in for the state, but not
for the log of failures in it; and for settings, but not on the command line. -/
theorem placed_atHome :
    let env : Environment :=
      { bindings := [("HOME", "/home/u"), ("MEMOAI_HOME", "~/m"), ("MEMOAI_CONFIG", "~/c.toml")]
        accounts := []
        account := "" }
    env.Rooted ∧ env.Placed ∧ ¬ env.Plain "MEMOAI_HOME" ∧
      env.home = .ok ⟨"/", ["home", "u", "m"]⟩ ∧
      env.errorLogPath = .ok ⟨"", ["~", "m", "memoai-errors.log"]⟩ ∧
      env.settingsPath = .ok ⟨"/", ["home", "u", "c.toml"]⟩ ∧
      Cli.settingsPath env none = .ok ⟨"", ["~", "c.toml"]⟩ := by
  intro env
  have rooted : env.Rooted := by
    intro name home known
    rw [FilePath.homeOf?] at known
    split at known
    · cases known
      rfl
    · cases known
  have unplain : ¬ env.Plain "MEMOAI_HOME" := fun plain =>
    absurd (plain "~/m" rfl) (by decide)
  exact ⟨rooted, placed env, unplain, rfl, rfl, rfl, rfl⟩

end Environment

end MemoAssist

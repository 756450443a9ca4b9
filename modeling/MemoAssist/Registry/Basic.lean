import MemoAssist.Act
import MemoAssist.Journal
import MemoAssist.Provider.Kind

namespace MemoAssist

/-- What a registry has to know about the providers it holds. -/
class Registrable (P : Type) where
  kind : P → ProviderKind
  title : P → String
  isConfigured : P → Bool
  defaultModel : P → String

/-- One provider for each family, in the order in which the families first came, and at most one of
them active. -/
structure Registry (P : Type) where
  entries : List (ProviderKind × P) := []
  active : Option ProviderKind := none

/-- What is shown of a registered provider. -/
structure ProviderStatus where
  kind : ProviderKind
  title : String
  configured : Bool
  active : Bool
  defaultModel : String
deriving DecidableEq, Repr

namespace Registry

variable {P : Type} [Registrable P] {τ : Type}

/-- A family that is there keeps its place and takes the new provider. -/
def put (kind : ProviderKind) (p : P) : List (ProviderKind × P) → List (ProviderKind × P)
  | [] => [(kind, p)]
  | (other, old) :: rest =>
    if other = kind then (kind, p) :: rest else (other, old) :: put kind p rest

def find? (r : Registry P) (kind : ProviderKind) : Option P :=
  (r.entries.find? fun entry => entry.1 = kind).map Prod.snd

/-- Does registering a provider also make it active? The first that is configured, if none is. -/
def selects (r : Registry P) (p : P) : Bool := r.active.isNone && Registrable.isConfigured p

def register (p : P) (r : Registry P) : Registry P :=
  let kind := Registrable.kind p
  { entries := put kind p r.entries
    active := if r.selects p then some kind else r.active }

def registering (p : P) (r : Registry P) : List (Event τ) :=
  let word := (Registrable.kind p).word
  Event.registered word (Registrable.title p) :: if r.selects p then [.selected word] else []

/-- Refuses the absence of a provider. -/
def noProvider : Fault := ⟨.badValue, "cannot register nil provider"⟩

def notRegistered (word : String) : Fault := ⟨.notRegistered, word⟩

def setActive (kind : ProviderKind) (r : Registry P) : Except Fault (Registry P) :=
  if (r.find? kind).isSome then .ok { r with active := some kind }
  else .error (notRegistered kind.word)

/-- Make the family active that a word names. -/
def activate (word : String) (r : Registry P) : Except Fault (Registry P) := do
  r.setActive (← ProviderKind.ofWord word)

/-- The active provider. -/
def current? (r : Registry P) : Option P := r.active.bind r.find?

/-- The provider of the family a word names. -/
def named (word : String) (r : Registry P) : Except Fault P :=
  match (ProviderKind.ofWord? word).bind r.find? with
  | some p => .ok p
  | none => .error (notRegistered word)

def statuses (r : Registry P) : List ProviderStatus :=
  r.entries.map fun (kind, p) =>
    { kind, title := Registrable.title p, configured := Registrable.isConfigured p
      active := r.active = some kind, defaultModel := Registrable.defaultModel p }

def anyConfigured (r : Registry P) : Bool := r.entries.any fun e => Registrable.isConfigured e.2

/-- The provider that answers requests: the active one, if it is configured. -/
def resolve (r : Registry P) : Except Fault P :=
  match r.current? with
  | some p => if Registrable.isConfigured p then .ok p else .error (.of .notConfigured)
  | none => .error (.of .notConfigured)

/-- Have work done by the provider that answers requests. -/
def answer {σ α : Type} (work : P → Act σ α) (r : Registry P) : Act σ α := do
  work (← Act.ofExcept r.resolve)

end Registry

end MemoAssist

import MemoAssist.Registry.Basic

/-! Activating a provider that may not be usable: the wish if it is, and else the first usable one,
local before remote. -/
namespace MemoAssist.Registry

variable {P : Type} [Registrable P] {τ : Type}

def fallbackOrder : List ProviderKind := [.ollama, .openai, .anthropic, .gemini]

/-- Is the family registered and configured? -/
def offers (r : Registry P) (kind : ProviderKind) : Bool :=
  (r.find? kind).any Registrable.isConfigured

def fallback? (r : Registry P) : Option ProviderKind := fallbackOrder.find? r.offers

def noFallback : Fault := ⟨.notConfigured, "no configured provider available for fallback"⟩

/-- The family that a word names, if its provider is usable. -/
def wish? (word : String) (r : Registry P) : Option ProviderKind :=
  (ProviderKind.ofWord? word).filter r.offers

/-- Activate the family a word names, or else fall back. -/
def activateOrFallback (word : String) (r : Registry P) : Except Fault (Registry P) :=
  match (r.wish? word).or r.fallback? with
  | some kind => .ok { r with active := some kind }
  | none => .error noFallback

def activating (word : String) (r : Registry P) : List (Event τ) :=
  match r.wish? word with
  | some kind => [.activated kind.word]
  | none =>
    Event.tryingFallback word :: match r.fallback? with
      | some kind => [.activated kind.word, .fallbackSelected kind.word]
      | none => []

end MemoAssist.Registry

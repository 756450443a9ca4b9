import MemoAssist.Fault

namespace MemoAssist

inductive ProviderKind where
  | openai
  | anthropic
  | gemini
  | ollama
deriving DecidableEq, Repr

namespace ProviderKind

def all : List ProviderKind := [.openai, .anthropic, .gemini, .ollama]

/-- The word that names a family in settings and messages. -/
def word : ProviderKind → String
  | .openai => "openai"
  | .anthropic => "anthropic"
  | .gemini => "gemini"
  | .ollama => "ollama"

def ofWord? (word : String) : Option ProviderKind := all.find? fun kind => kind.word = word

@[simp] theorem ofWord?_word (kind : ProviderKind) : ofWord? kind.word = some kind := by
  cases kind <;> rfl

def ofWord (word : String) : Except Fault ProviderKind :=
  match ofWord? word with
  | some kind => .ok kind
  | none => .error (.of .unknownName)

@[simp] theorem ofWord_word (kind : ProviderKind) : ofWord kind.word = .ok kind := by
  rw [ofWord, ofWord?_word]

/-- The name shown to people. -/
def title : ProviderKind → String
  | .openai => "OpenAI"
  | .anthropic => "Anthropic"
  | .gemini => "Google Gemini"
  | .ollama => "Ollama"

end ProviderKind

end MemoAssist

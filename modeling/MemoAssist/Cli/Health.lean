import MemoAssist.Cli.Session
import MemoAssist.Provider.Calls
import MemoAssist.Registry.Basic

namespace MemoAssist.Cli

variable {τ : Type} [TimeScale τ]

inductive Health where
  | notConfigured
  /-- A server told its version. -/
  | version (v : Json)
  /-- A service listed its models. -/
  | models (count : Nat)
  | failed (f : Fault)

namespace Health

def note : Health → String
  | .notConfigured => "not configured"
  | .version v => "ok (version " ++ v.text ++ ")"
  | .models count => "ok (" ++ toString count ++ " models)"
  | .failed f => (Concern.of f).word ++ " (" ++ f.message ++ ")"

def line (kind : ProviderKind) (h : Health) : String := kind.word ++ ": " ++ h.note

def isFailure : Health → Bool
  | .failed _ => true
  | _ => false

end Health

def signOfLife (scope : ScopeId) (p : Provider τ) : Act (World τ) Health :=
  match p.kind with
  | .ollama => do return .version (← p.version scope)
  | _ => do return .models (← p.models scope).length

/-- A failure of language-model work is what the probe is there to find. -/
def probe (scope : ScopeId) (p : Provider τ) : Act (World τ) Health :=
  if p.isConfigured then do
    match ← Act.attempt (signOfLife scope p) with
    | .ok health => pure health
    | .error f => if f.isA .modelWork then pure (.failed f) else Act.fail f
  else pure .notConfigured

/-- One line for each provider: did any of them fail? -/
def probeAll (scope : ScopeId) : List (ProviderKind × Provider τ) → Act (Session τ) Bool
  | [] => pure false
  | (kind, p) :: rest => do
    let health ← Session.onWorld (probe scope p)
    Session.relay (health.line kind)
    return (← probeAll scope rest) || health.isFailure

end MemoAssist.Cli

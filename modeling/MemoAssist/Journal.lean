import MemoAssist.Clock.Scale

namespace MemoAssist

/-- What the library reports about its own work. -/
inductive Event (τ : Type) where
  | registered (kind name : String)
  | selected (kind : String)
  | activated (kind : String)
  | tryingFallback (kind : String)
  | fallbackSelected (kind : String)
  | noFallback (reason : String)
  | retrying (method url : String) (attempt : Nat) (pause : τ) (reason : String)
  | gaveUp (method url : String) (attempts : Int) (reason : String)
  | tagsGenerated (user : Int) (count : Nat)
  | taggingStopped

namespace Event

variable {τ : Type} [TimeScale τ]

/-- Seconds to one place; a half goes to the even neighbour. -/
def tenths (span : τ) : String :=
  let micros := TimeScale.micros span
  let below := micros / 100000
  let rest := micros - below * 100000
  let nearest :=
    if rest < 50000 then below
    else if rest > 50000 then below + 1
    else if below % 2 = 0 then below else below + 1
  (if nearest < 0 then "-" else "") ++ toString (nearest.natAbs / 10) ++ "." ++
    toString (nearest.natAbs % 10)

def isWarning : Event τ → Bool
  | .noFallback _ | .gaveUp .. => true
  | _ => false

/-- The part of the library that reports. -/
def reporter : Event τ → String
  | .registered .. | .selected _ | .activated _ => "memoai.service"
  | .tryingFallback _ | .fallbackSelected _ | .noFallback _ => "memoai.config"
  | .retrying .. | .gaveUp .. => "memoai.providers.transport"
  | .tagsGenerated .. | .taggingStopped => "memoai.tag_service"

def text : Event τ → String
  | .registered kind name => "LLM provider registered: " ++ kind ++ " (" ++ name ++ ")"
  | .selected kind => "LLM auto-selected active provider: " ++ kind
  | .activated kind => "LLM active provider changed: " ++ kind
  | .tryingFallback kind =>
    "Requested provider " ++ kind ++ " not available, trying fallback"
  | .fallbackSelected kind => "Fallback provider selected: " ++ kind
  | .noFallback reason => "No fallback provider available: " ++ reason
  | .retrying method url attempt pause reason =>
    method ++ " " ++ url ++ " attempt " ++ toString attempt ++ " failed, retrying in " ++
      tenths pause ++ "s: " ++ reason
  | .gaveUp method url attempts reason =>
    method ++ " " ++ url ++ " failed after " ++ toString attempts ++ " attempts: " ++ reason
  | .tagsGenerated user count =>
    "Tag suggestion generated: user_id=" ++ toString user ++ " tags=" ++ toString count
  | .taggingStopped => "Tag service stopped"

def line (e : Event τ) : String :=
  (if e.isWarning then "WARNING " else "INFO ") ++ e.reporter ++ " " ++ e.text

end Event

end MemoAssist

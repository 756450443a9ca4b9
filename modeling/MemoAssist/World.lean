import MemoAssist.Octets
import MemoAssist.Journal
import MemoAssist.Scope.Timeline
import MemoAssist.Wire.Message

namespace MemoAssist

/-- What the library works in, with records of the requests made and of the operations reported. -/
structure World (τ : Type) where
  time : Timeline τ
  entropy : Entropy
  client : Client τ
  sent : List (Sent τ) := []
  journal : List (Event τ) := []

namespace World

variable {τ : Type} [TimeScale τ]

def start (client : Client τ) : World τ :=
  { time := .start, entropy := .counting, client }

def onTime {α : Type} (work : Act (Timeline τ) α) : Act (World τ) α :=
  Act.within World.time (fun time w => { w with time }) work

def openScope (timeout : Option τ) (parent : Option ScopeId) : Act (World τ) ScopeId :=
  onTime (Act.step (Timeline.openScope timeout parent))

def cancel (id : ScopeId) : Act (World τ) Unit := onTime (Act.modify (Timeline.cancel id))

def check (id : ScopeId) : Act (World τ) Unit := fun w => (w.time.check id, w)

def sleep (id : ScopeId) (span : τ) : Act (World τ) Unit := onTime (Timeline.sleep id span)

def advance (span : τ) : Act (World τ) Unit := onTime (Act.modify (Timeline.advance span))

def remaining (id : ScopeId) : Act (World τ) (Option τ) := fun w => (.ok (w.time.remaining id), w)

def report (e : Event τ) : Act (World τ) Unit :=
  Act.modify fun w => { w with journal := w.journal ++ [e] }

def draw (count : Nat) : Act (World τ) Text.Bytes := fun w =>
  let (bytes, entropy) := w.entropy.draw count
  (.ok bytes, { w with entropy })

/-- Hand one attempt to the client and wait for what comes of it. -/
def send (attempt : Sent τ) : Act (World τ) Outcome := fun w =>
  let reply := w.client w.sent.length
  let time := reply.delay.elim w.time fun span => w.time.advance span
  (.ok reply.outcome, { w with time, sent := w.sent ++ [attempt] })

end World

end MemoAssist

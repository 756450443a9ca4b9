import MemoAssist.Fault

namespace MemoAssist

/-- Work on a state that may fail. A failure keeps whatever the state has become by then. -/
def Act (σ α : Type) : Type := σ → Except Fault α × σ

namespace Act

variable {σ α β : Type}

instance : Monad (Act σ) where
  pure a := fun s => (.ok a, s)
  bind step next := fun s =>
    match step s with
    | (.ok a, s) => next a s
    | (.error e, s) => (.error e, s)

def fail (f : Fault) : Act σ α := fun s => (.error f, s)

def get : Act σ σ := fun s => (.ok s, s)

def modify (change : σ → σ) : Act σ Unit := fun s => (.ok (), change s)

/-- Take a value out of the state together with the state that is left. -/
def step (f : σ → α × σ) : Act σ α := fun s => let (a, s) := f s; (.ok a, s)

def ofExcept : Except Fault α → Act σ α
  | .ok a => pure a
  | .error f => fail f

/-- Do the work and hand out its outcome, so that nothing fails from here. -/
def attempt (work : Act σ α) : Act σ (Except Fault α) := fun s =>
  let (outcome, s) := work s
  (.ok outcome, s)

/-- Work on a part of the state. -/
def within (part : σ → β) (put : β → σ → σ) (work : Act β α) : Act σ α := fun s =>
  let (outcome, inner) := work (part s)
  (outcome, put inner s)

end Act

end MemoAssist

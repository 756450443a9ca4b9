import MemoAssist.Fault

namespace MemoAssist

variable {α β : Type} {fails : Fault → Prop} {holds holds' : α → Prop} {then' : β → Prop}
  {x : Except Fault α} {next : α → Except Fault β}

def Ends (fails : Fault → Prop) (holds : α → Prop) : Except Fault α → Prop
  | .ok a => holds a
  | .error f => fails f

/-- The work does not fail in other ways. -/
abbrev Limits (fails : Fault → Prop) : Except Fault α → Prop := Ends fails fun _ => True

theorem bind_eq_ok {b : β} : x >>= next = .ok b ↔ ∃ a, x = .ok a ∧ next a = .ok b := by
  cases x <;> simp [bind, Except.bind]

theorem bind_of_ok {a : α} (done : x = .ok a) : x >>= next = next a := by
  rw [done]
  rfl

/-- A good result of two steps is one of the second step. -/
theorem exists_bind {good : β → Prop} :
    (∃ b, x >>= next = .ok b ∧ good b) ↔ ∃ a, x = .ok a ∧ ∃ b, next a = .ok b ∧ good b := by
  cases x <;> simp [bind, Except.bind]

namespace Ends

theorem bind (first : Ends fails holds x) (later : ∀ a, holds a → Ends fails then' (next a)) :
    Ends fails then' (x >>= next) := by
  cases x with
  | ok a => exact later a first
  | error f => exact first

theorem imp (ends : Ends fails holds x) (weaker : ∀ a, holds a → holds' a) :
    Ends fails holds' x := by
  cases x with
  | ok a => exact weaker a ends
  | error f => exact ends

/-- More kinds of failures may be allowed. -/
theorem widen {fails' : Fault → Prop} (ends : Ends fails holds x) (wider : ∀ f, fails f → fails' f) :
    Ends fails' holds x := by
  cases x with
  | ok a => exact ends
  | error f => exact wider f ends

end Ends

namespace Limits

theorem bind (first : Limits fails x) (later : ∀ a, Ends fails then' (next a)) :
    Ends fails then' (x >>= next) := Ends.bind first fun a _ => later a

theorem map {f : α → β} (limits : Limits fails x) : Limits fails (x.map f) := by
  cases x with
  | ok a => trivial
  | error g => exact limits

theorem mapM {read : α → Except Fault β} (limits : ∀ a, Limits fails (read a)) {items : List α} :
    Limits fails (items.mapM read) := by
  induction items with
  | nil => trivial
  | cons item rest ih =>
    rw [List.mapM_cons]
    exact (limits item).bind fun _ => ih.bind fun _ => trivial

end Limits

end MemoAssist

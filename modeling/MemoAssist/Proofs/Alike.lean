import MemoAssist.Proofs.Act

/-! Work that nobody can tell apart who sees only a part of the state: where the states look the same it
comes to the same, and leaves states that look the same. -/
namespace MemoAssist.Act

variable {σ ν α β : Type} {view : σ → ν}

def Alike (view : σ → ν) (work work' : Act σ α) : Prop :=
  ∀ s s', view s = view s' → (work s).1 = (work' s').1 ∧ view (work s).2 = view (work' s').2

namespace Alike

variable {work work' : Act σ α} {next next' : α → Act σ β}

theorem pure (a : α) : Alike view (pure a) (pure a) := fun _ _ same => ⟨rfl, same⟩

theorem fail (f : Fault) : Alike view (Act.fail f : Act σ α) (Act.fail f) :=
  fun _ _ same => ⟨rfl, same⟩

theorem ofExcept (x : Except Fault α) : Alike view (Act.ofExcept x) (Act.ofExcept x) := by
  cases x with
  | ok a => exact pure a
  | error f => exact fail f

theorem bind (first : Alike view work work') (later : ∀ a, Alike view (next a) (next' a)) :
    Alike view (work >>= next) (work' >>= next') := by
  intro s s' same
  obtain ⟨outcome, left⟩ := first s s' same
  rcases ran : work s with ⟨x, t⟩
  rcases ran' : work' s' with ⟨x', t'⟩
  rw [ran, ran'] at outcome left
  obtain rfl : x = x' := outcome
  cases x with
  | ok a =>
    rw [bind_ok ran, bind_ok ran']
    exact later a t t' left
  | error f =>
    rw [bind_error ran, bind_error ran']
    exact ⟨rfl, left⟩

/-- To go on after a failure tells no more than the failure does. -/
theorem attempt (alike : Alike view work work') : Alike view work.attempt work'.attempt := by
  intro s s' same
  obtain ⟨outcome, left⟩ := alike s s' same
  exact ⟨congrArg Except.ok outcome, left⟩

end Alike

end MemoAssist.Act

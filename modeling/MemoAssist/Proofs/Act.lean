import MemoAssist.Act

namespace MemoAssist

namespace Act

variable {σ α β : Type} {work : Act σ α} {next : α → Act σ β} {s s' : σ}

theorem bind_ok {a : α} (done : work s = (.ok a, s')) : (work >>= next) s = next a s' := by
  simp only [bind, done]

theorem bind_error {f : Fault} (failed : work s = (.error f, s')) :
    (work >>= next) s = (.error f, s') := by
  simp only [bind, failed]

/-- Work that comes out well does so at each of its steps. -/
theorem of_bind_ok {b : β} {s'' : σ} (done : (work >>= next) s = (.ok b, s'')) :
    ∃ a s', work s = (.ok a, s') ∧ next a s' = (.ok b, s'') := by
  rcases first : work s with ⟨f | a, s'⟩
  · rw [bind_error first] at done
    cases done
  · rw [bind_ok first] at done
    exact ⟨a, s', rfl, done⟩

theorem bind_assoc {γ : Type} (work : Act σ α) (next : α → Act σ β) (last : β → Act σ γ) :
    (work >>= next) >>= last = work >>= fun a => next a >>= last := by
  funext s
  simp only [bind]
  rcases work s with ⟨_ | _, s⟩ <;> rfl

theorem ofExcept_eq (x : Except Fault α) (s : σ) : ofExcept x s = (x, s) := by
  cases x <;> rfl

theorem ofExcept_map (x : Except Fault α) (make : α → β) :
    (ofExcept x >>= fun a => pure (make a)) = (ofExcept (x.map make) : Act σ β) := by
  cases x <;> rfl

theorem ofExcept_bind (x : Except Fault α) (next : α → Except Fault β) :
    (ofExcept x >>= fun a => ofExcept (next a)) = (ofExcept (x >>= next) : Act σ β) := by
  cases x <;> rfl

end Act

end MemoAssist

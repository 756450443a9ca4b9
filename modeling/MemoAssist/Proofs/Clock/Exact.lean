import MemoAssist.Clock.Scale
import Mathlib.Data.Rat.Cast.Order

namespace MemoAssist

/-- Every reading is the exact value of a rational number of units. -/
class ExactScale (τ : Type) [TimeScale τ] where
  value : τ → ℚ
  value_add : ∀ a b : τ, value (a + b) = value a + value b
  value_sub : ∀ a b : τ, value (a - b) = value a - value b
  lt_iff : ∀ a b : τ, a < b ↔ value a < value b
  le_iff : ∀ a b : τ, a ≤ b ↔ value a ≤ value b

instance : ExactScale Int where
  value n := n
  value_add := Int.cast_add
  value_sub := Int.cast_sub
  lt_iff _ _ := Int.cast_lt.symm
  le_iff _ _ := Int.cast_le.symm

namespace ExactScale

variable {τ : Type} [TimeScale τ] [ExactScale τ]

theorem value_earlier (a b : τ) : value (TimeScale.earlier a b) = min (value a) (value b) := by
  unfold TimeScale.earlier
  split
  · next less => exact (min_eq_right (le_of_lt ((lt_iff b a).mp less))).symm
  · next more => exact (min_eq_left (not_lt.mp (more ∘ (lt_iff b a).mpr))).symm

theorem value_later (a b : τ) : value (TimeScale.later a b) = max (value a) (value b) := by
  unfold TimeScale.later
  split
  · next less => exact (max_eq_right (le_of_lt ((lt_iff a b).mp less))).symm
  · next more => exact (max_eq_left (not_lt.mp (more ∘ (lt_iff a b).mpr))).symm

theorem value_doubled (a : τ) (n : Nat) : value (TimeScale.doubled a n) = value a * 2 ^ n := by
  induction n with
  | zero => rw [pow_zero, mul_one]; rfl
  | succ n ih => rw [TimeScale.doubled, value_add, ih, pow_succ, ← mul_assoc, mul_two]

end ExactScale

/-- An exact scale on which no time at all is zero. -/
class TrueScale (τ : Type) [TimeScale τ] extends ExactScale τ where
  value_zero : value (TimeScale.zero : τ) = 0

instance : TrueScale Int where
  value_zero := Int.cast_zero

namespace TrueScale

variable {τ : Type} [TimeScale τ] [TrueScale τ] {span : τ}

theorem lt_zero_iff : span < TimeScale.zero ↔ ExactScale.value span < 0 := by
  rw [ExactScale.lt_iff, value_zero]

end TrueScale

end MemoAssist

import MemoAssist.Decimal.Text

/-! Clock readings and spans of time, in seconds. Everything that keeps time is written for any
scale, so that it runs on binary64 seconds and can be reasoned about on exact ones. -/
namespace MemoAssist

class TimeScale (τ : Type) extends Add τ, Sub τ, LT τ, LE τ where
  ofInt : Int → τ
  decideLT : ∀ a b : τ, Decidable (a < b)
  decideLE : ∀ a b : τ, Decidable (a ≤ b)
  /-- The nearest whole number of microseconds. -/
  micros : τ → Int
  /-- The nearest whole number of nanoseconds. -/
  nanos : τ → Int
  /-- How many powers of two are factors on the scale, counted from 1 on, if there is an end. -/
  powersOfTwo : Option Nat

namespace TimeScale

variable {τ : Type} [TimeScale τ]

instance (a b : τ) : Decidable (a < b) := decideLT a b

instance (a b : τ) : Decidable (a ≤ b) := decideLE a b

def zero : τ := ofInt 0

/-- The earlier of two readings, the first if they are equal. -/
def earlier (a b : τ) : τ := if b < a then b else a

/-- The later of two readings, the first if they are equal. -/
def later (a b : τ) : τ := if a < b then b else a

/-- `a * 2 ^ n`. -/
def doubled (a : τ) : (n : Nat) → τ
  | 0 => a
  | n + 1 => let half := doubled a n; half + half

end TimeScale

/-- Stands for a span that no calendar can hold. -/
def boundless : Int := (Nat.pow 10 30 : Nat)

/-- Whole seconds count exactly; only the fraction is multiplied and rounded, to even. -/
def microsOfSeconds (x : Float) : Int :=
  if x.isNaN then boundless
  else if x.isInf then if Decimal.isNegative x then -boundless else boundless
  else
    let (numerator, shift) := Decimal.fraction x
    let whole := Int.tdiv numerator (Nat.pow 2 shift : Nat)
    whole * 1000000 + Decimal.roundToEven ((x - Float.ofInt whole) * 1000000.0)

def nanosOfSeconds (x : Float) : Int :=
  let product := x * 1000000000.0
  if product.isNaN || product.isInf then boundless else Decimal.roundToEven product

instance : TimeScale Float where
  ofInt := Float.ofInt
  decideLT := fun a b => inferInstanceAs (Decidable (a < b))
  decideLE := fun a b => inferInstanceAs (Decidable (a ≤ b))
  micros := microsOfSeconds
  nanos := nanosOfSeconds
  powersOfTwo := some 1024

/-- Exact time: whole microseconds. -/
instance : TimeScale Int where
  ofInt n := n * 1000000
  decideLT := fun a b => inferInstanceAs (Decidable (a < b))
  decideLE := fun a b => inferInstanceAs (Decidable (a ≤ b))
  micros n := n
  nanos n := n * 1000
  powersOfTwo := none

end MemoAssist

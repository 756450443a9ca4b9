/-! The fewest decimal digits that identify a binary64 value, found by exact arithmetic on grids of
powers of ten. -/
namespace MemoAssist.Decimal

/-- A finite magnitude `mantissa * 2 ^ exponent`. Below a power of two the gap to the next value
down is half the gap up. -/
structure Magnitude where
  mantissa : Nat
  exponent : Int
  narrowBelow : Bool
deriving DecidableEq

/-- The magnitude of a finite value from its bits, the sign bit aside. -/
def Magnitude.ofBits (bits : UInt64) : Magnitude :=
  let scale := ((bits >>> 52) &&& 0x7FF).toNat
  let fraction := (bits &&& 0xFFFFFFFFFFFFF).toNat
  if scale = 0 then ⟨fraction, -1074, false⟩
  else ⟨Nat.pow 2 52 + fraction, scale - 1075, fraction = 0 && scale > 1⟩

/-- The decimal number `digits * 10 ^ exponent`. -/
structure Digits where
  digits : Nat
  exponent : Int
deriving DecidableEq

/-- The reals that round to a magnitude, on the grid `10 ^ exponent`: a point `d` of the grid is
`d * unit`, and `lower`, `value` and `upper` are measured in the same way. -/
structure Cell where
  lower : Nat
  value : Nat
  upper : Nat
  unit : Nat
  closed : Bool

def Magnitude.cell (m : Magnitude) (exponent : Int) : Cell :=
  let quarter := m.exponent - 2
  let factor := Nat.pow 2 quarter.toNat * Nat.pow 10 (-exponent).toNat
  { lower := (4 * m.mantissa - if m.narrowBelow then 1 else 2) * factor
    value := 4 * m.mantissa * factor
    upper := (4 * m.mantissa + 2) * factor
    unit := Nat.pow 10 exponent.toNat * Nat.pow 2 (-quarter).toNat
    closed := m.mantissa % 2 = 0 }

/-- Does the point `d` of the grid read back as the value? The ends count when the mantissa is even. -/
def Cell.holds (c : Cell) (d : Nat) : Bool :=
  if c.closed then c.lower ≤ d * c.unit && d * c.unit ≤ c.upper
  else c.lower < d * c.unit && d * c.unit < c.upper

/-- Of the two neighbours of the value on the grid, the one that reads back; of two the nearer, and
of two equally near the even one. -/
def Cell.nearest? (c : Cell) : Option Nat :=
  let below := c.value / c.unit
  let above := below + 1
  match c.holds below, c.holds above with
  | false, false => none
  | true, false => some below
  | false, true => some above
  | true, true =>
    match compare (2 * c.value) ((below + above) * c.unit) with
    | .lt => some below
    | .gt => some above
    | .eq => some (if below % 2 = 0 then below else above)

/-- A power of ten at or above the value, by an estimate of the logarithm that is never too small. -/
def Magnitude.top (m : Magnitude) : Int :=
  ((m.mantissa.log2 : Int) + m.exponent + 1) * 30103 / 100000 + 1

/-- Try ever finer grids; the first with a point that reads back has the fewest digits. -/
def Magnitude.search (m : Magnitude) : (grids : Nat) → (exponent : Int) → Option Digits
  | 0, _ => none
  | grids + 1, exponent =>
    match (m.cell exponent).nearest? with
    | some d => some ⟨d, exponent⟩
    | none => m.search grids (exponent - 1)

/-- The value itself in decimal digits. -/
def Magnitude.exact (m : Magnitude) : Digits :=
  if 0 ≤ m.exponent then ⟨m.mantissa * Nat.pow 2 m.exponent.toNat, 0⟩
  else ⟨m.mantissa * Nat.pow 5 (-m.exponent).toNat, m.exponent⟩

/-- Seventeen digits identify every value, so twenty-two grids from above are enough. -/
def Magnitude.shortest (m : Magnitude) : Digits :=
  if m.mantissa = 0 then ⟨0, 0⟩ else (m.search 22 m.top).getD m.exact

end MemoAssist.Decimal

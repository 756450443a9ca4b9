import MemoAssist.Decimal.Shortest
import MemoAssist.Text.Numeral

namespace MemoAssist.Decimal

/-- Where the decimal point stands: positional for leading digits from `10 ^ -4` to `10 ^ 15`, and
otherwise a signed exponent of at least two digits. A whole value keeps `.0`. -/
def layOut (d : Digits) : List Char :=
  let digits := Text.ofNat d.digits
  let leading := d.exponent + digits.length - 1
  if -4 ≤ leading ∧ leading < 16 then
    if 0 ≤ d.exponent then digits ++ List.replicate d.exponent.toNat '0' ++ ['.', '0']
    else if 0 ≤ leading then
      digits.take (leading.toNat + 1) ++ '.' :: digits.drop (leading.toNat + 1)
    else '0' :: '.' :: (List.replicate (-leading - 1).toNat '0' ++ digits)
  else
    let fraction := digits.drop 1
    digits.take 1 ++ (if fraction.isEmpty then [] else '.' :: fraction)
      ++ 'e' :: (if leading < 0 then '-' else '+') :: Text.padded 2 leading.natAbs

def isNegative (x : Float) : Bool := x.toBits >>> 63 = 1

/-- The shortest text that reads back to the same value. -/
def text (x : Float) : String :=
  if x.isNaN then "nan"
  else
    let sign := if isNegative x then "-" else ""
    if x.isInf then sign ++ "inf"
    else sign ++ String.ofList (layOut (Magnitude.ofBits x.toBits).shortest)

/-- `mantissa * 10 ^ exponent`, correctly rounded. A value beyond the range is infinite or zero
without its power of ten being formed. -/
def read (negative : Bool) (mantissa : Nat) (exponent : Int) : Float :=
  let leading := exponent + (Text.ofNat mantissa).length
  let magnitude : Float :=
    if mantissa = 0 ∨ leading < -330 then 0.0
    else if leading > 310 then Float.ofBits 0x7FF0000000000000
    else Float.ofScientific mantissa (exponent < 0) exponent.natAbs
  if negative then -magnitude else magnitude

/-- The finite value as a fraction: numerator, and the power of two it is divided by. -/
def fraction (x : Float) : Int × Nat :=
  let m := Magnitude.ofBits x.toBits
  let numerator : Int := (m.mantissa * Nat.pow 2 m.exponent.toNat : Nat)
  (if isNegative x then -numerator else numerator, (-m.exponent).toNat)

/-- The nearest integer, a half going to the even neighbour. -/
def roundToEven (x : Float) : Int :=
  let (numerator, shift) := fraction x
  let unit : Int := (Nat.pow 2 shift : Nat)
  let floor := numerator / unit
  match compare (2 * (numerator - floor * unit)) unit with
  | .lt => floor
  | .gt => floor + 1
  | .eq => if floor % 2 = 0 then floor else floor + 1

/-- An integer against a value that is a number, exactly. -/
def compareInt (n : Int) (x : Float) : Ordering :=
  if x.isInf then if isNegative x then .gt else .lt
  else
    let (numerator, shift) := fraction x
    compare (n * (Nat.pow 2 shift : Nat)) numerator

end MemoAssist.Decimal

namespace MemoAssist.Text

/-- One digit in lower-case hexadecimal. -/
def hexDigit (n : Nat) : Char := Char.ofNat (if n < 10 then 48 + n else 87 + n)

/-- The last `width` hexadecimal digits, the most significant first. -/
def hexOfWidth : (width : Nat) → Nat → List Char
  | 0, _ => []
  | width + 1, n => hexOfWidth width (n / 16) ++ [hexDigit (n % 16)]

def hexValue? (c : Char) : Option Nat :=
  let n := c.toNat
  if 48 ≤ n ∧ n ≤ 57 then some (n - 48)
  else if 97 ≤ n ∧ n ≤ 102 then some (n - 87)
  else if 65 ≤ n ∧ n ≤ 70 then some (n - 55)
  else none

def isDigit (c : Char) : Bool := 48 ≤ c.toNat && c.toNat ≤ 57

/-- The value of decimal digits; what is no digit counts by its distance from zero. -/
def decimalValue (digits : List Char) : Nat :=
  digits.foldl (fun n c => 10 * n + (c.toNat - 48)) 0

/-- Whole numbers with more decimal digits than this are neither read nor written. -/
def digitLimit : Nat := 4300

def isTooLong (n : Int) : Bool := Nat.pow 10 digitLimit ≤ n.natAbs

def ofNat (n : Nat) : List Char := Nat.toDigits 10 n

def ofInt : Int → List Char
  | .ofNat n => ofNat n
  | .negSucc n => '-' :: ofNat (n + 1)

/-- Decimal digits filled up with zeros on the left. -/
def padded (width n : Nat) : List Char :=
  let digits := ofNat n
  List.replicate (width - digits.length) '0' ++ digits

/-- Fill up with blanks on the right to a width in characters. -/
def padEnd (width : Nat) (s : String) : String :=
  String.ofList (s.toList ++ List.replicate (width - s.length) ' ')

end MemoAssist.Text

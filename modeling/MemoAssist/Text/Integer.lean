import MemoAssist.Text.Lines
import MemoAssist.Text.Numeral

/-! Whole numbers as people write them. Zeros in front, single underscores between digits and a
fraction of zeros do not count. -/
namespace MemoAssist.Text

/-- White space around a number does not count, apart from the four separators. -/
def isNumberBlank (c : Char) : Bool := isBlank c && !(0x1C ≤ c.toNat && c.toNat ≤ 0x1F)

/-- A plus in front does not count, but no minus may follow it. -/
def afterPlus? : List Char → Option (List Char)
  | '+' :: '-' :: _ => none
  | '+' :: rest => some rest
  | s => some s

def startsNumber (c : Char) : Bool := isDigit c || c = '-'

/-- The number behind zeros, among which there may be underscores. The character just before stays
where nothing or a point follows. -/
def behindZeros? (last : Char) : List Char → Option (List Char)
  | [] => some [last]
  | c :: rest =>
    if c = '0' ∨ c = '_' then behindZeros? c rest
    else if startsNumber c then some (c :: rest)
    else if c = '.' then some (last :: c :: rest)
    else none

def withoutZeros? : List Char → Option (List Char)
  | [] => none
  | c :: rest =>
    if c = '0' then behindZeros? c rest
    else if startsNumber c then some (c :: rest)
    else none

/-- A fraction that consists of zeros is left out. -/
def withoutFraction (s : List Char) : List Char :=
  match s.dropWhile (· ≠ '.') with
  | '.' :: '0' :: places => if places.all (· = '0') then s.takeWhile (· ≠ '.') else s
  | _ => s

/-- Digits with single underscores between them, without the underscores. -/
def groupedDigits? : List Char → Option (List Char)
  | [] => none
  | [c] => if isDigit c then some [c] else none
  | c :: '_' :: rest => if isDigit c then (groupedDigits? rest).map (c :: ·) else none
  | c :: rest => if isDigit c then (groupedDigits? rest).map (c :: ·) else none

/-- A minus, if there is one, and the digits of a number. The plain form may be no longer than the
limit, the minus included. -/
def plainInteger? (s : List Char) : Option Int :=
  match s with
  | '-' :: rest => do
    let digits ← groupedDigits? rest
    if digits.length < digitLimit then some (-(decimalValue digits : Int)) else none
  | _ => do
    let digits ← groupedDigits? s
    if digits.length ≤ digitLimit then some (decimalValue digits) else none

/-- The number in a text. -/
def integer? (s : String) : Option Int := do
  let s ← afterPlus? (trimWhere isNumberBlank s.toList)
  plainInteger? (withoutFraction (← withoutZeros? s))

end MemoAssist.Text

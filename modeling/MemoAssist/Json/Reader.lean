import MemoAssist.Decimal.Text
import MemoAssist.Json.Basic
import MemoAssist.Text.Encoding

/-! Reading JSON. Besides the standard, the words `NaN`, `Infinity` and `-Infinity` are numbers, and
the last of several equal keys of an object wins. -/
namespace MemoAssist.Json

def isSpace (c : Char) : Bool := c = ' ' || c = '\t' || c = '\n' || c = '\r'

def skipSpace (s : List Char) : List Char := s.dropWhile isSpace

def hex4? : List Char → Option (Nat × List Char)
  | a :: b :: c :: d :: rest => do
    let a ← Text.hexValue? a
    let b ← Text.hexValue? b
    let c ← Text.hexValue? c
    let d ← Text.hexValue? d
    return (4096 * a + 256 * b + 16 * c + d, rest)
  | _ => none

def shortEscape? : Char → Option Char
  | '"' => some '"'
  | '\\' => some '\\'
  | '/' => some '/'
  | 'b' => some '\x08'
  | 'f' => some '\x0C'
  | 'n' => some '\n'
  | 'r' => some '\r'
  | 't' => some '\t'
  | _ => none

/-- The character a numeric escape stands for, with the second half of a surrogate pair if one
follows. -/
def numericEscape? (s : List Char) : Option (Char × List Char) := do
  let (unit, rest) ← hex4? s
  if 0xD800 ≤ unit ∧ unit ≤ 0xDBFF then
    match rest with
    | '\\' :: 'u' :: more =>
      match hex4? more with
      | some (low, more) =>
        if 0xDC00 ≤ low ∧ low ≤ 0xDFFF then
          return (Char.ofNat (0x10000 + 0x400 * (unit - 0xD800) + (low - 0xDC00)), more)
        else return (Text.half unit, rest)
      | none => none
    | _ => return (Text.half unit, rest)
  else if 0xDC00 ≤ unit ∧ unit ≤ 0xDFFF then return (Text.half unit, rest)
  else return (Char.ofNat unit, rest)

/-- The rest of a string after its opening quote, and what follows the closing one. -/
def stringTail : (fuel : Nat) → List Char → Option (List Char × List Char)
  | 0, _ => none
  | _ + 1, [] => none
  | _ + 1, '"' :: rest => some ([], rest)
  | fuel + 1, '\\' :: 'u' :: rest => do
    let (c, rest) ← numericEscape? rest
    let (more, rest) ← stringTail fuel rest
    return (c :: more, rest)
  | fuel + 1, '\\' :: e :: rest => do
    let c ← shortEscape? e
    let (more, rest) ← stringTail fuel rest
    return (c :: more, rest)
  | fuel + 1, c :: rest =>
    if c.toNat < 0x20 ∨ c = '\\' then none
    else do
      let (more, rest) ← stringTail fuel rest
      return (c :: more, rest)

/-- The digits of an exponent with their sign, if the text goes on with one. -/
def exponent? : List Char → Option (Int × List Char)
  | e :: rest =>
    if e = 'e' ∨ e = 'E' then
      let (negative, rest) := match rest with
        | '-' :: r => (true, r)
        | '+' :: r => (false, r)
        | r => (false, r)
      let digits := rest.takeWhile Text.isDigit
      if digits.isEmpty then none
      else
        let n : Int := Text.decimalValue digits
        some (if negative then -n else n, rest.drop digits.length)
    else none
  | [] => none

/-- The digits after a decimal point, if the text goes on with a point and a digit. -/
def fraction? : List Char → Option (List Char × List Char)
  | '.' :: rest =>
    let digits := rest.takeWhile Text.isDigit
    if digits.isEmpty then none else some (digits, rest.drop digits.length)
  | _ => none

def number? (s : List Char) : Option (Number × List Char) :=
  let (negative, s) := match s with
    | '-' :: r => (true, r)
    | r => (false, r)
  let whole := match s with
    | '0' :: _ => ['0']
    | r => r.takeWhile Text.isDigit
  if whole.isEmpty then none
  else
    let afterWhole := s.drop whole.length
    let point := fraction? afterWhole
    let (places, afterPoint) := point.getD ([], afterWhole)
    let power := exponent? afterPoint
    if point.isNone && power.isNone then
      if whole.length > Text.digitLimit then none
      else
        let n : Int := Text.decimalValue whole
        some (.int (if negative then -n else n), afterWhole)
    else
      let (e, rest) := power.getD (0, afterPoint)
      let mantissa := Text.decimalValue (whole ++ places)
      some (.float (Decimal.read negative mantissa (e - places.length)), rest)

def infinite (negative : Bool) : Float :=
  Float.ofBits (if negative then 0xFFF0000000000000 else 0x7FF0000000000000)

mutual

/-- One value, which starts at the first character. -/
def value? : (fuel : Nat) → List Char → Option (Json × List Char)
  | 0, _ => none
  | fuel + 1, s =>
    match s with
    | '"' :: rest => (stringTail (rest.length + 1) rest).map fun (t, r) => (.str (String.ofList t), r)
    | '{' :: rest =>
      match skipSpace rest with
      | '}' :: rest => some (.obj [], rest)
      | rest => (fields? fuel [] rest).map fun (fs, r) => (.obj fs, r)
    | '[' :: rest =>
      match skipSpace rest with
      | ']' :: rest => some (.arr [], rest)
      | rest => (items? fuel rest).map fun (xs, r) => (.arr xs, r)
    | 'n' :: 'u' :: 'l' :: 'l' :: rest => some (.null, rest)
    | 't' :: 'r' :: 'u' :: 'e' :: rest => some (.bool true, rest)
    | 'f' :: 'a' :: 'l' :: 's' :: 'e' :: rest => some (.bool false, rest)
    | 'N' :: 'a' :: 'N' :: rest => some (.float (0.0 / 0.0), rest)
    | 'I' :: 'n' :: 'f' :: 'i' :: 'n' :: 'i' :: 't' :: 'y' :: rest =>
      some (.float (infinite false), rest)
    | '-' :: 'I' :: 'n' :: 'f' :: 'i' :: 'n' :: 'i' :: 't' :: 'y' :: rest =>
      some (.float (infinite true), rest)
    | s => (number? s).map fun (n, r) => (.num n, r)

/-- The items of an array up to its closing bracket. -/
def items? : (fuel : Nat) → List Char → Option (List Json × List Char)
  | 0, _ => none
  | fuel + 1, s => do
    let (item, rest) ← value? fuel s
    match skipSpace rest with
    | ']' :: rest => return ([item], rest)
    | ',' :: rest =>
      let (more, rest) ← items? fuel (skipSpace rest)
      return (item :: more, rest)
    | _ => none

/-- The fields of an object up to its closing brace, added to those read before. -/
def fields? : (fuel : Nat) → List (String × Json) → List Char →
    Option (List (String × Json) × List Char)
  | 0, _, _ => none
  | fuel + 1, before, s => do
    let (name, rest) ← match s with
      | '"' :: rest => stringTail (rest.length + 1) rest
      | _ => none
    match skipSpace rest with
    | ':' :: rest =>
      let (value, rest) ← value? fuel (skipSpace rest)
      let fields := put (String.ofList name) value before
      match skipSpace rest with
      | '}' :: rest => return (fields, rest)
      | ',' :: rest => fields? fuel fields (skipSpace rest)
      | _ => none
    | _ => none

end

/-- How many calls within calls are enough to read a text: two for each character, and one. -/
def callsFor (s : List Char) : Nat := 2 * s.length + 1

/-- The value a text denotes, with blanks allowed around it and nothing else, however deep it is. -/
def read? (s : List Char) : Option Json :=
  match value? (callsFor s) (skipSpace s) with
  | some (v, rest) => if (skipSpace rest).isEmpty then some v else none
  | none => none

end MemoAssist.Json

import MemoAssist.Json.Reader
import MemoAssist.Toml.Basic

/-! The parts of TOML that hold no others: strings, numbers, dates and times, and the keys. Each
reader returns what it read and the rest of the text. -/
namespace MemoAssist.Toml

abbrev Read (α : Type) := List Char → Option (α × List Char)

/-- Why a document is refused. -/
inductive Flaw where
  | malformed
  /-- A whole number in decimal has too many digits to be read. -/
  | tooManyDigits (count : Nat)
deriving DecidableEq, Repr

abbrev Parse (α : Type) := List Char → Except Flaw (α × List Char)

def orMalformed {α : Type} : Option α → Except Flaw α
  | some a => .ok a
  | none => .error .malformed

def isBlank (c : Char) : Bool := c = ' ' || c = '\t'

def skipBlanks (s : List Char) : List Char := s.dropWhile isBlank

def isBlankOrBreak (c : Char) : Bool := isBlank c || c = '\n'

def isControl (c : Char) : Bool := c.toNat < 0x20 || c.toNat = 0x7F

/-- Of the controls, one line holds tabs only. -/
def fitsLine (c : Char) : Bool := !isControl c || c = '\t'

def fitsLines (c : Char) : Bool := fitsLine c || c = '\n'

/-- The rest of the text behind `start`, if it begins with it. -/
def after? (start s : List Char) : Option (List Char) :=
  if start.isPrefixOf s then some (s.drop start.length) else none

/-- What stands before the first `stop`, and what follows it. -/
def upTo? (stop : List Char) : Read (List Char)
  | [] => none
  | c :: rest =>
    match after? stop (c :: rest) with
    | some behind => some ([], behind)
    | none => (upTo? stop rest).map fun (before, behind) => (c :: before, behind)

/-- Text that stands for itself up to `stop`. -/
def literal? (stop : List Char) (fits : Char → Bool) : Read (List Char) := fun s =>
  (upTo? stop s).filter fun (before, _) => before.all fits

/-- The value of hexadecimal digits of a fixed number. -/
def hex? : (width : Nat) → (value : Nat) → Read Nat
  | 0, value, s => some (value, s)
  | _ + 1, _, [] => none
  | width + 1, value, c :: rest => do hex? width (16 * value + (← Text.hexValue? c)) rest

def scalar? (width : Nat) : Read (List Char) := fun s => do
  let (code, rest) ← hex? width 0 s
  if h : code.isValidChar then some ([Char.ofNatAux code h], rest) else none

def shortEscape? (c : Char) : Option Char := if c = '/' then none else Json.shortEscape? c

/-- A backslash at the end of a line joins the lines, with all blanks around the break. -/
def joinLines? (s : List Char) : Option (List Char) :=
  match skipBlanks s with
  | [] => some []
  | '\n' :: rest => some (rest.dropWhile isBlankOrBreak)
  | _ => none

/-- What an escape stands for, after its backslash. -/
def escape? (manyLines : Bool) : Read (List Char)
  | [] => none
  | 'u' :: rest => scalar? 4 rest
  | 'U' :: rest => scalar? 8 rest
  | c :: rest =>
    if manyLines && isBlankOrBreak c then (joinLines? (c :: rest)).map fun rest => ([], rest)
    else (shortEscape? c).map fun c => ([c], rest)

/-- The rest of a string with escapes, after its opening quotes. -/
def basic? (manyLines : Bool) : (fuel : Nat) → Read (List Char)
  | 0, _ => none
  | _ + 1, [] => none
  | fuel + 1, '\\' :: rest => do
    let (piece, rest) ← escape? manyLines rest
    let (more, rest) ← basic? manyLines fuel rest
    return (piece ++ more, rest)
  | fuel + 1, c :: rest => do
    let quotes := if manyLines then ['"', '"', '"'] else ['"']
    if let some behind := after? quotes (c :: rest) then return ([], behind)
    if !(if manyLines then fitsLines c else fitsLine c) then none
    else
      let (more, rest) ← basic? manyLines fuel rest
      return (c :: more, rest)

/-- Up to two more quotes before the closing three belong to the string. -/
def withQuotes (quote : Char) (read : List Char × List Char) : List Char × List Char :=
  let (content, rest) := read
  let extra := (rest.take 2).takeWhile (· = quote)
  (content ++ extra, rest.drop extra.length)

/-- A line break right after the opening quotes does not count. -/
def withoutBreak : List Char → List Char
  | '\n' :: rest => rest
  | s => s

def lineString? : Read String
  | '"' :: rest => (basic? false (rest.length + 1) rest).map fun (s, r) => (String.ofList s, r)
  | '\'' :: rest => (literal? ['\''] fitsLine rest).map fun (s, r) => (String.ofList s, r)
  | _ => none

def string? : Read String
  | '"' :: '"' :: '"' :: rest =>
    let rest := withoutBreak rest
    (basic? true (rest.length + 1) rest).map fun read =>
      let (s, r) := withQuotes '"' read
      (String.ofList s, r)
  | '\'' :: '\'' :: '\'' :: rest =>
    (literal? ['\'', '\'', '\''] fitsLines (withoutBreak rest)).map fun read =>
      let (s, r) := withQuotes '\'' read
      (String.ofList s, r)
  | s => lineString? s

/-- Digits with single underscores between them; the underscores are dropped. -/
def digitsOf (p : Char → Bool) : List Char → List Char × List Char
  | [] => ([], [])
  | '_' :: c :: rest =>
    if p c then
      let (more, rest) := digitsOf p rest
      (c :: more, rest)
    else ([], '_' :: c :: rest)
  | c :: rest =>
    if p c then
      let (more, rest) := digitsOf p rest
      (c :: more, rest)
    else ([], c :: rest)

/-- At least one digit, and no underscore in front. -/
def digits? (p : Char → Bool) : Read (List Char)
  | c :: rest => if p c then some (digitsOf p (c :: rest)) else none
  | [] => none

def valueIn (base : Nat) (digits : List Char) : Nat :=
  digits.foldl (fun n c => base * n + (Text.hexValue? c).getD 0) 0

def isDigitIn (base : Nat) (c : Char) : Bool := (Text.hexValue? c).any (· < base)

def based? : Read Number
  | '0' :: mark :: rest => do
    let base ← match mark with
      | 'x' => some 16
      | 'o' => some 8
      | 'b' => some 2
      | _ => none
    let (digits, rest) ← digits? (isDigitIn base) rest
    return (.int (valueIn base digits), rest)
  | _ => none

def sign : List Char → Bool × List Char
  | '-' :: rest => (true, rest)
  | '+' :: rest => (false, rest)
  | s => (false, s)

def fraction? : Read (List Char)
  | '.' :: rest => digits? Text.isDigit rest
  | _ => none

def exponent? : Read Int
  | mark :: rest =>
    if mark = 'e' ∨ mark = 'E' then
      let (negative, rest) := sign rest
      (digits? Text.isDigit rest).map fun (digits, rest) =>
        let n : Int := Text.decimalValue digits
        (if negative then -n else n, rest)
    else none
  | [] => none

/-- A number in decimal, in its parts; a whole one has neither places nor a power. -/
structure Numeral where
  negative : Bool
  whole : List Char
  fraction : Option (List Char × Int)

def numeral? : Read Numeral := fun s => do
  let (negative, s) := sign s
  let (whole, rest) ← match s with
    | '0' :: rest => some (['0'], rest)
    | s => digits? Text.isDigit s
  let (places, afterPoint) := (fraction? rest).getD ([], rest)
  let (power, afterPower) := (exponent? afterPoint).getD (0, afterPoint)
  let fraction := if afterPower.length = rest.length then none else some (places, power)
  return (⟨negative, whole, fraction⟩, afterPower)

/-- Only whole numbers can have too many digits. -/
def Numeral.number (n : Numeral) : Except Flaw Number :=
  match n.fraction with
  | none =>
    if n.whole.length > Text.digitLimit then .error (.tooManyDigits n.whole.length)
    else
      let value : Int := Text.decimalValue n.whole
      .ok (.int (if n.negative then -value else value))
  | some (places, power) =>
    let mantissa := Text.decimalValue (n.whole ++ places)
    .ok (.float (Decimal.read n.negative mantissa (power - places.length)))

/-- The words for what is not finite, with or without a sign. -/
def special? : Read Number := fun s =>
  let (negative, s) := sign s
  match s with
  | 'i' :: 'n' :: 'f' :: rest => some (.float (Json.infinite negative), rest)
  | 'n' :: 'a' :: 'n' :: rest => some (.float (0.0 / 0.0), rest)
  | _ => none

def number : Parse Number := fun s =>
  match based? s, numeral? s with
  | some read, _ => .ok read
  | none, some (n, rest) => return (← n.number, rest)
  | none, none => orMalformed (special? s)

/-- A number of a fixed count of digits between two bounds. -/
def fixed? (width low high : Nat) : Read Nat := fun s =>
  let digits := s.take width
  let n := Text.decimalValue digits
  if digits.length = width && digits.all Text.isDigit && low ≤ n && n ≤ high then
    some (n, s.drop width)
  else none

/-- What follows a given character. -/
def past (c : Char) (s : List Char) : Option (List Char) := after? [c] s

def date? : Read Date := fun s => do
  let (year, rest) ← fixed? 4 0 9999 s
  let (month, rest) ← fixed? 2 1 12 (← past '-' rest)
  let (day, rest) ← fixed? 2 1 31 (← past '-' rest)
  return (⟨year, month, day⟩, rest)

/-- Places beyond the sixth are dropped. -/
def micros (s : List Char) : Nat × List Char :=
  match s with
  | '.' :: rest =>
    let digits := rest.takeWhile Text.isDigit
    if digits.isEmpty then (0, s)
    else
      let six := (digits ++ List.replicate 6 '0').take 6
      (Text.decimalValue six, rest.drop digits.length)
  | _ => (0, s)

def time? : Read TimeOfDay := fun s => do
  let (hour, rest) ← fixed? 2 0 23 s
  let (minute, rest) ← fixed? 2 0 59 (← past ':' rest)
  let (second, rest) ← fixed? 2 0 59 (← past ':' rest)
  let (micros, rest) := micros rest
  return (⟨hour, minute, second, micros⟩, rest)

/-- Minutes from universal time. -/
def offset? : Read Int
  | mark :: rest =>
    if mark = 'Z' ∨ mark = 'z' then some (0, rest)
    else if mark = '+' ∨ mark = '-' then do
      let (hours, rest) ← fixed? 2 0 23 rest
      let (minutes, rest) ← fixed? 2 0 59 (← past ':' rest)
      let n : Int := 60 * hours + minutes
      return (if mark = '-' then -n else n, rest)
    else none
  | [] => none

/-- The time that goes with a date, if the text goes on with one. -/
def timeOfDate? : Read (TimeOfDay × Option Int)
  | mark :: rest => do
    if mark ≠ 'T' ∧ mark ≠ 't' ∧ mark ≠ ' ' then none
    let (time, rest) ← time? rest
    match offset? rest with
    | some (minutes, rest) => return ((time, some minutes), rest)
    | none => return ((time, none), rest)
  | [] => none

/-- A date that has the form of one and is not in the calendar is refused. -/
def datedMoment? (s : List Char) : Option (Option (Moment × List Char)) :=
  (date? s).map fun (date, rest) =>
    if date.isValid then
      match timeOfDate? rest with
      | some ((time, offset), rest) => some (.full date time offset, rest)
      | none => some (.date date, rest)
    else none

def isBareKey (c : Char) : Bool :=
  let n := c.toNat
  Text.isDigit c || (65 ≤ n && n ≤ 90) || (97 ≤ n && n ≤ 122) || c = '-' || c = '_'

def keyPart? : Read String := fun s =>
  let bare := s.takeWhile isBareKey
  if bare.isEmpty then lineString? s else some (String.ofList bare, s.drop bare.length)

/-- Parts between dots, blanks around the dots allowed. -/
def key? : (fuel : Nat) → Read (List String)
  | 0, _ => none
  | fuel + 1, s => do
    let (part, rest) ← keyPart? s
    match skipBlanks rest with
    | '.' :: rest =>
      let (more, rest) ← key? fuel (skipBlanks rest)
      return (part :: more, rest)
    | rest => return ([part], rest)

end MemoAssist.Toml

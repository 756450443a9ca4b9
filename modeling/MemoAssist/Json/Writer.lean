import MemoAssist.Decimal.Text
import MemoAssist.Json.Basic
import MemoAssist.Text.Encoding

namespace MemoAssist.Json

def unitEscape (n : Nat) : List Char := '\\' :: 'u' :: Text.hexOfWidth 4 n

/-- Anything but printable ASCII is escaped, in pairs of surrogates above U+FFFF. -/
def escaped (c : Char) : List Char :=
  if c = '"' then ['\\', '"']
  else if c = '\\' then ['\\', '\\']
  else if c = '\n' then ['\\', 'n']
  else if c = '\r' then ['\\', 'r']
  else if c = '\t' then ['\\', 't']
  else if c = '\x0C' then ['\\', 'f']
  else if c = '\x08' then ['\\', 'b']
  else if 0x20 ≤ c.toNat ∧ c.toNat < 0x7F then [c]
  else if c.toNat < 0x10000 then unitEscape c.toNat
  else
    let n := c.toNat - 0x10000
    unitEscape (0xD800 + n / 0x400) ++ unitEscape (0xDC00 + n % 0x400)

/-- The same for a text that a backend sent, where halves of surrogate pairs may stand alone. -/
def escapedSent (c : Char) : List Char :=
  if Text.isHalf c then unitEscape (Text.codeSent c) else escaped c

def writeString (s : String) (escape : Char → List Char := escaped) : String :=
  "\"" ++ String.ofList (s.toList.flatMap escape) ++ "\""

def writeNumber : Number → String
  | .int n => toString n
  | .float x =>
    if x.isNaN then "NaN"
    else if x.isInf then if Decimal.isNegative x then "-Infinity" else "Infinity"
    else Decimal.text x

mutual

/-- Is a whole number in it too long to be written? -/
def hasLongNumber : Json → Bool
  | .num (.int n) => Text.isTooLong n
  | .arr items => haveLongNumber items
  | .obj fields => fieldsHaveLongNumber fields
  | _ => false

def haveLongNumber : List Json → Bool
  | [] => false
  | item :: rest => hasLongNumber item || haveLongNumber rest

def fieldsHaveLongNumber : List (String × Json) → Bool
  | [] => false
  | (_, value) :: rest => hasLongNumber value || fieldsHaveLongNumber rest

end

mutual

/-- On one line, a blank after each comma and colon. -/
def write (v : Json) (escape : Char → List Char := escaped) : String :=
  match v with
  | .null => "null"
  | .bool b => if b then "true" else "false"
  | .num n => writeNumber n
  | .str s => writeString s escape
  | .arr items => "[" ++ ", ".intercalate (writeItems items escape) ++ "]"
  | .obj fields => "\x7b" ++ ", ".intercalate (writeFields fields escape) ++ "\x7d"

def writeItems (items : List Json) (escape : Char → List Char := escaped) : List String :=
  match items with
  | [] => []
  | item :: rest => write item escape :: writeItems rest escape

def writeFields (fields : List (String × Json)) (escape : Char → List Char := escaped) :
    List String :=
  match fields with
  | [] => []
  | (name, value) :: rest =>
    (writeString name escape ++ ": " ++ write value escape) :: writeFields rest escape

end

def newLine (depth : Nat) : String := "\n" ++ String.ofList (List.replicate (2 * depth) ' ')

mutual

/-- One item a line, two blanks deeper at each level; what is empty stays on its line. -/
def writeIndented (depth : Nat) (v : Json) (escape : Char → List Char := escaped) : String :=
  match v with
  | .arr (item :: rest) =>
    "[" ++ newLine (depth + 1)
      ++ ("," ++ newLine (depth + 1)).intercalate (indentedItems (depth + 1) (item :: rest) escape)
      ++ newLine depth ++ "]"
  | .obj (field :: rest) =>
    "\x7b" ++ newLine (depth + 1)
      ++ ("," ++ newLine (depth + 1)).intercalate
        (indentedFields (depth + 1) (field :: rest) escape)
      ++ newLine depth ++ "\x7d"
  | .arr [] => "[]"
  | .obj [] => "\x7b\x7d"
  | .null => "null"
  | .bool b => if b then "true" else "false"
  | .num n => writeNumber n
  | .str s => writeString s escape

def indentedItems (depth : Nat) (items : List Json) (escape : Char → List Char := escaped) :
    List String :=
  match items with
  | [] => []
  | item :: rest => writeIndented depth item escape :: indentedItems depth rest escape

def indentedFields (depth : Nat) (fields : List (String × Json))
    (escape : Char → List Char := escaped) : List String :=
  match fields with
  | [] => []
  | (name, value) :: rest =>
    (writeString name escape ++ ": " ++ writeIndented depth value escape) ::
      indentedFields depth rest escape

end

end MemoAssist.Json

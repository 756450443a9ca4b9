import MemoAssist.Text.Encoding
import MemoAssist.Toml.Reader

namespace MemoAssist.Setting

def shortEscape? (c : Char) : Option Char :=
  if c = '\x08' then some 'b'
  else if c = '\n' then some 'n'
  else if c = '\x0C' then some 'f'
  else if c = '\r' then some 'r'
  else if c = '"' ∨ c = '\\' then some c
  else none

/-- Quotes, backslashes and controls are escaped; a tab stands for itself. -/
def escaped (c : Char) : List Char :=
  match shortEscape? c with
  | some mark => ['\\', mark]
  | none =>
    if Toml.isControl c ∧ c ≠ '\t' then '\\' :: 'u' :: Text.hexOfWidth 4 c.toNat else [c]

def writeText (s : String) : String :=
  "\"" ++ String.ofList (s.toList.flatMap escaped) ++ "\""

def pairLine (name value : String) : String := name ++ " = " ++ value ++ "\n"

/-- A table is set off by a blank line, and is written even when it is empty. -/
def writeEntry (name : String) : Entry → String
  | .word s => pairLine name (writeText s)
  | .flag b => pairLine name (if b then "true" else "false")
  | .fields all =>
    "\n[" ++ name ++ "]\n" ++ String.join (all.map fun f => pairLine f.1 (writeText f.2))

def writeTable (table : List (String × Entry)) : String :=
  String.join (table.map fun e => writeEntry e.1 e.2)

/-- The text of the settings file. -/
def document (s : Setting) : String := writeTable s.toTable

def invalidFile (path : String) : Fault :=
  ⟨.badValue, "Invalid settings file " ++ path ++ ": " ++ Fault.unspoken⟩

/-- The settings in a file at a path. -/
def ofDocument (path text : String) : Except Fault Setting :=
  match Toml.read text with
  | .ok table => ofTable table
  | .error .malformed => .error (invalidFile path)
  | .error (.tooManyDigits count) => .error (.tooLongToRead count)

/-- The settings in the bytes of a file, which have to be UTF-8. -/
def ofFile (path : String) (bytes : Text.Bytes) : Except Fault Setting :=
  match Text.decode? bytes with
  | some text => ofDocument path text
  | none => .error ⟨.notText, Fault.unspoken⟩

end MemoAssist.Setting

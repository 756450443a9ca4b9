import MemoAssist.Text.Encoding
import MemoAssist.Text.Numeral
import MemoAssist.Text.Shown

namespace MemoAssist.Text

/-- Apostrophes, unless the text holds an apostrophe and no double quote. -/
def quoteFor (s : List Char) : Char :=
  if s.contains '\'' && !s.contains '"' then '"' else '\''

/-- The numeric escape, as short as the code point allows. -/
def codeEscape (n : Nat) : List Char :=
  if n < 0x100 then '\\' :: 'x' :: hexOfWidth 2 n
  else if n < 0x10000 then '\\' :: 'u' :: hexOfWidth 4 n
  else '\\' :: 'U' :: hexOfWidth 8 n

def quotedChar (quote : Char) (code : Char → Nat) (c : Char) : List Char :=
  if c = quote ∨ c = '\\' then ['\\', c]
  else if c = '\t' then ['\\', 't']
  else if c = '\n' then ['\\', 'n']
  else if c = '\r' then ['\\', 'r']
  else if isShown c then [c]
  else codeEscape (code c)

/-- A text that a backend sent has its own codes for what is hidden. -/
def quoted (s : String) (code : Char → Nat := Char.toNat) : String :=
  let quote := quoteFor s.toList
  String.ofList (quote :: (s.toList.flatMap (quotedChar quote code) ++ [quote]))

/-- A text that a backend sent, with the codes of halves of surrogate pairs for what has no bytes. -/
def spelledOut (s : String) : String :=
  String.ofList (s.toList.flatMap fun c => if isHalf c then codeEscape (codeSent c) else [c])

/-- Quoted texts between square brackets. -/
def quotedList (items : List String) : String :=
  "[" ++ ", ".intercalate (items.map fun item => quoted item) ++ "]"

end MemoAssist.Text

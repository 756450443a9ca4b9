import MemoAssist.Decimal.Text
import MemoAssist.Json.Basic
import MemoAssist.Text.Quoted

/-! JSON values inside running text: a string stands for itself, everything else as it is shown
within a list or table, where strings are quoted. Such values are what a backend sent. -/
namespace MemoAssist.Json

def shownBool (b : Bool) : String := if b then "True" else "False"

def shownNumber : Number → String
  | .int n => toString n
  | .float x => Decimal.text x

mutual

def shown : Json → String
  | .null => "None"
  | .bool b => shownBool b
  | .num n => shownNumber n
  | .str s => Text.quoted s Text.codeSent
  | .arr items => "[" ++ ", ".intercalate (shownItems items) ++ "]"
  | .obj fields => "\x7b" ++ ", ".intercalate (shownFields fields) ++ "\x7d"

def shownItems : List Json → List String
  | [] => []
  | item :: rest => shown item :: shownItems rest

def shownFields : List (String × Json) → List String
  | [] => []
  | (name, value) :: rest => (Text.quoted name Text.codeSent ++ ": " ++ shown value) :: shownFields rest

end

def text : Json → String
  | .str s => s
  | v => shown v

end MemoAssist.Json

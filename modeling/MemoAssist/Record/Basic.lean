import MemoAssist.Json.Loose

/-! Records as JSON objects. A field that is missing has its usual value, and one of an unexpected
type counts as missing. -/
namespace MemoAssist.Record

/-- The value of a field, and nothing where there is none. -/
def get (record : Json) (name : String) : Json :=
  match record with
  | .obj fields => (Json.find? name fields).getD .null
  | _ => .null

def has (record : Json) (name : String) : Bool :=
  match record with
  | .obj fields => (Json.find? name fields).isSome
  | _ => false

def textOr (usual : String) : Json → String
  | .str s => s
  | _ => usual

def text (record : Json) (name : String) : String := textOr "" (get record name)

def numberOr (usual : Number) (v : Json) : Number := (Json.asNumber? v).getD usual

def integerOr (usual : Int) (v : Json) : Int :=
  match numberOr (.int usual) v with
  | .int n => n
  | .float x => Decimal.roundToEven x

def flagOr (usual : Bool) : Json → Bool
  | .null => usual
  | v => v.isSet

def flag (record : Json) (name : String) : Bool := flagOr false (get record name)

def items : Json → List Json
  | .arr items => items
  | _ => []

def fields : Json → List (String × Json)
  | .obj fields => fields
  | _ => []

def texts (record : Json) (name : String) : List String :=
  (items (get record name)).map (textOr "")

def ofOption {α : Type} (write : α → Json) : Option α → Json
  | none => .null
  | some a => write a

def ofTexts (all : List String) : Json := .arr (all.map .str)

end MemoAssist.Record

import MemoAssist.Fault
import MemoAssist.Json.Basic
import MemoAssist.Decimal.Text
import MemoAssist.Text.Lines

/-! Reading values whose shape nobody promised. Each operation works on the types it has a meaning
for and is otherwise a fault of its own kind: a missing field, a wrong type, a missing key. -/
namespace MemoAssist.Json

/-- Nothing, zero and whatever is empty do not count as a value. -/
def isSet : Json → Bool
  | .null => false
  | .bool b => b
  | .num n => n.isNonzero
  | .str s => s ≠ ""
  | .arr items => !items.isEmpty
  | .obj fields => !fields.isEmpty

def orElse (v other : Json) : Json := if v.isSet then v else other

/-- The value of a field, or what stands for a missing one; only objects have fields. -/
def field (v : Json) (key : String) (missing : Json) : Except Fault Json :=
  match v with
  | .obj fields => .ok ((find? key fields).getD missing)
  | _ => .error (.of .noSuchField)

/-- The text of a value that is used as a string. -/
def asString : Json → Except Fault String
  | .str s => .ok s
  | _ => .error (.of .noSuchField)

/-- The parts of a value: items of an array, characters of a string, keys of an object. -/
def parts : Json → Except Fault (List Json)
  | .arr items => .ok items
  | .str s => .ok (s.toList.map fun c => .str (String.ofList [c]))
  | .obj fields => .ok (fields.map fun f => .str f.1)
  | _ => .error (.of .illTyped)

/-- The part at the front. An object has parts but no front. -/
def front : Json → Except Fault Json
  | .arr (item :: _) => .ok item
  | .str s => .ok (.str (String.ofList (s.toList.take 1)))
  | .obj _ => .error (.of .missingKey)
  | _ => .error (.of .illTyped)

/-- Is a word among the items, inside the text, or among the keys? -/
def mentions (word : String) : Json → Except Fault Bool
  | .arr items => .ok (items.any fun | .str s => s = word | _ => false)
  | .str s => .ok (Text.holds word.toList s.toList)
  | .obj fields => .ok (fields.any fun f => f.1 = word)
  | _ => .error (.of .illTyped)

/-- Texts run together; anything that is no text is a wrong type. -/
def joined : List Json → Except Fault String
  | [] => .ok ""
  | .str s :: rest => (joined rest).map (s ++ ·)
  | _ :: _ => .error (.of .illTyped)

/-- Truth values count as one and zero among numbers. -/
def asNumber? : Json → Option Number
  | .bool b => some (.int (if b then 1 else 0))
  | .num n => some n
  | _ => none

def toFloat (n : Int) : Except Fault Float :=
  let x := Float.ofInt n
  if x.isInf then .error (.of .outOfRange) else .ok x

def addNumbers : Number → Number → Except Fault Number
  | .int m, .int n => .ok (.int (m + n))
  | .float x, .float y => .ok (.float (x + y))
  | .int m, .float y => (toFloat m).map fun x => .float (x + y)
  | .float x, .int n => (toFloat n).map fun y => .float (x + y)

/-- Numbers add up; texts and arrays are put one behind the other. -/
def add (v w : Json) : Except Fault Json :=
  match v, w with
  | .str s, .str t => .ok (.str (s ++ t))
  | .arr xs, .arr ys => .ok (.arr (xs ++ ys))
  | v, w =>
    match asNumber? v, asNumber? w with
    | some m, some n => (addNumbers m n).map .num
    | _, _ => .error (.of .illTyped)

def numberLess : Number → Number → Bool
  | .int m, .int n => m < n
  | .float x, .float y => x < y
  | .int m, .float y => !y.isNaN && Decimal.compareInt m y == .lt
  | .float x, .int n => !x.isNaN && Decimal.compareInt n x == .gt

def numberSame : Number → Number → Bool
  | .int m, .int n => m = n
  | .float x, .float y => x == y || (x.isNaN && y.isNaN)
  | .int m, .float y => !y.isNaN && Decimal.compareInt m y == .eq
  | .float x, .int n => !x.isNaN && Decimal.compareInt n x == .eq

mutual

/-- Equality across the spellings of a number; the order of keys does not matter. -/
def same : Json → Json → Bool
  | .null, .null => true
  | .str s, .str t => s = t
  | .arr xs, .arr ys => sameItems xs ys
  | .obj fs, .obj gs => fs.length = gs.length && sameFields fs gs
  | .bool b, w => match asNumber? w with
    | some n => numberSame (.int (if b then 1 else 0)) n
    | none => false
  | .num m, w => match asNumber? w with
    | some n => numberSame m n
    | none => false
  | _, _ => false

def sameItems : List Json → List Json → Bool
  | [], [] => true
  | x :: xs, y :: ys => same x y && sameItems xs ys
  | _, _ => false

def sameFields : List (String × Json) → List (String × Json) → Bool
  | [], _ => true
  | (name, value) :: rest, others =>
    (match find? name others with
      | some other => same value other
      | none => false) && sameFields rest others

end

mutual

/-- Numbers, texts and arrays of one kind have an order; arrays are compared at their first
difference. -/
def less : Json → Json → Except Fault Bool
  | .str s, .str t => .ok (s < t)
  | .arr xs, .arr ys => lessItems xs ys
  | v, w =>
    match asNumber? v, asNumber? w with
    | some m, some n => .ok (numberLess m n)
    | _, _ => .error (.of .illTyped)

def lessItems : List Json → List Json → Except Fault Bool
  | _, [] => .ok false
  | [], _ :: _ => .ok true
  | x :: xs, y :: ys => if same x y then lessItems xs ys else less x y

end

mutual

/-- Does a NaN take part in comparisons? It is neither less nor greater than any number. -/
def hasUnordered : Json → Bool
  | .num (.float x) => x.isNaN
  | .arr items => haveUnordered items
  | _ => false

def haveUnordered : List Json → Bool
  | [] => false
  | item :: rest => hasUnordered item || haveUnordered rest

end

end MemoAssist.Json

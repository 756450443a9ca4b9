/-! JSON values. Integers and floating-point numbers are kept apart, and objects keep the order in
which their keys first came. -/
namespace MemoAssist

/-- A number as it was written: whole, or with a fraction or exponent. -/
inductive Number where
  | int (n : Int)
  | float (x : Float)

inductive Json where
  | null
  | bool (b : Bool)
  | num (n : Number)
  | str (s : String)
  | arr (items : List Json)
  | obj (fields : List (String × Json))

namespace Json

def int (n : Int) : Json := .num (.int n)

def float (x : Float) : Json := .num (.float x)

/-- The value under a key among the fields of an object. -/
def find? (key : String) : List (String × Json) → Option Json
  | [] => none
  | (name, value) :: rest => if name = key then some value else find? key rest

/-- A key that is there keeps its place and takes the new value; a new key goes to the end. -/
def put (key : String) (value : Json) : List (String × Json) → List (String × Json)
  | [] => [(key, value)]
  | (name, old) :: rest =>
    if name = key then (name, value) :: rest else (name, old) :: put key value rest

end Json

namespace Number

/-- Greater than zero. -/
def isPositive : Number → Bool
  | .int n => 0 < n
  | .float x => 0.0 < x

/-- Different from zero. -/
def isNonzero : Number → Bool
  | .int n => n ≠ 0
  | .float x => !(x == 0.0)

end Number

end MemoAssist

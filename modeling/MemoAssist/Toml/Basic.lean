import MemoAssist.Json.Display
import MemoAssist.Setting.Table

namespace MemoAssist.Toml

structure Date where
  year : Nat
  month : Nat
  day : Nat
deriving DecidableEq, Repr

/-- A time of day, to the microsecond. -/
structure TimeOfDay where
  hour : Nat
  minute : Nat
  second : Nat
  micros : Nat
deriving DecidableEq, Repr

/-- A date, a time, or both; the offset from universal time is in minutes. -/
inductive Moment where
  | date (d : Date)
  | time (t : TimeOfDay)
  | full (d : Date) (t : TimeOfDay) (offset : Option Int)
deriving DecidableEq, Repr

inductive Value where
  | text (s : String)
  | number (n : Number)
  | flag (b : Bool)
  | moment (m : Moment)
  | arr (items : List Value)
  | table (fields : List (String × Value))

abbrev Table := List (String × Value)

def field (width n : Nat) : String := String.ofList (Text.padded width n)

namespace Date

def text (d : Date) : String :=
  field 4 d.year ++ "-" ++ field 2 d.month ++ "-" ++ field 2 d.day

def parts (d : Date) : List Nat := [d.year, d.month, d.day]

def isLeap (year : Nat) : Bool := year % 4 = 0 && (year % 100 ≠ 0 || year % 400 = 0)

def daysIn (year month : Nat) : Nat :=
  if month = 2 then if isLeap year then 29 else 28
  else if month = 4 ∨ month = 6 ∨ month = 9 ∨ month = 11 then 30
  else 31

/-- The calendar starts with the year 1. -/
def isValid (d : Date) : Bool :=
  1 ≤ d.year && 1 ≤ d.month && d.month ≤ 12 && 1 ≤ d.day && d.day ≤ daysIn d.year d.month

end Date

namespace TimeOfDay

def text (t : TimeOfDay) : String :=
  field 2 t.hour ++ ":" ++ field 2 t.minute ++ ":" ++ field 2 t.second
    ++ if t.micros = 0 then "" else "." ++ field 6 t.micros

/-- Hour and minute, and whatever else is not zero. -/
def parts (t : TimeOfDay) : List Nat :=
  [t.hour, t.minute]
    ++ if t.micros ≠ 0 then [t.second, t.micros] else if t.second ≠ 0 then [t.second] else []

end TimeOfDay

namespace Moment

def offsetText (minutes : Int) : String :=
  (if minutes < 0 then "-" else "+") ++ field 2 (minutes.natAbs / 60) ++ ":"
    ++ field 2 (minutes.natAbs % 60)

def text : Moment → String
  | .date d => d.text
  | .time t => t.text
  | .full d t offset => d.text ++ " " ++ t.text ++ offset.elim "" offsetText

/-- A span is shown in whole days, of which there may be less than none, and seconds after them. -/
def offsetShown (minutes : Int) : String :=
  if minutes = 0 then "datetime.timezone.utc"
  else
    let seconds := minutes * 60
    let span := if 0 < seconds then "seconds=" ++ toString seconds
      else "days=-1, seconds=" ++ toString (86400 + seconds)
    "datetime.timezone(datetime.timedelta(" ++ span ++ "))"

def call (name : String) (arguments : List String) : String :=
  name ++ "(" ++ ", ".intercalate arguments ++ ")"

def shown : Moment → String
  | .date d => call "datetime.date" (d.parts.map toString)
  | .time t => call "datetime.time" (t.parts.map toString)
  | .full d t offset =>
    call "datetime.datetime" ((d.parts ++ t.parts).map toString
      ++ (offset.map fun minutes => "tzinfo=" ++ offsetShown minutes).toList)

end Moment

namespace Value

mutual

/-- As shown within a list or table. -/
def shown : Value → String
  | .text s => MemoAssist.Text.quoted s
  | .number n => Json.shownNumber n
  | .flag b => Json.shownBool b
  | .moment m => m.shown
  | .arr items => "[" ++ ", ".intercalate (shownItems items) ++ "]"
  | .table fields => "\x7b" ++ ", ".intercalate (shownFields fields) ++ "\x7d"

def shownItems : List Value → List String
  | [] => []
  | item :: rest => shown item :: shownItems rest

def shownFields : List (String × Value) → List String
  | [] => []
  | (name, value) :: rest =>
    (MemoAssist.Text.quoted name ++ ": " ++ shown value) :: shownFields rest

end

/-- The text of a value that stands alone. -/
def plain : Value → String
  | .text s => s
  | .moment m => m.text
  | v => v.shown

def isSet : Value → Bool
  | .text s => s ≠ ""
  | .number n => n.isNonzero
  | .flag b => b
  | .moment _ => true
  | .arr items => !items.isEmpty
  | .table fields => !fields.isEmpty

mutual

def hasLongNumber : Value → Bool
  | .number (.int n) => Text.isTooLong n
  | .arr items => haveLongNumber items
  | .table fields => fieldsHaveLongNumber fields
  | _ => false

def haveLongNumber : List Value → Bool
  | [] => false
  | item :: rest => hasLongNumber item || haveLongNumber rest

def fieldsHaveLongNumber : List (String × Value) → Bool
  | [] => false
  | (_, value) :: rest => hasLongNumber value || fieldsHaveLongNumber rest

end

/-- A text of a value whose numbers can all be written. -/
def written (write : Value → String) (v : Value) : Except Fault String :=
  if v.hasLongNumber then .error .tooLongToWrite else .ok (write v)

instance : Cell Value where
  isSet := isSet
  text := written plain
  shown := written shown
  word? := fun | .text s => some s | _ => none
  fields? := fun | .table fields => some fields | _ => none

end Value

end MemoAssist.Toml

import MemoAssist.Clock.Scale
import MemoAssist.Fault
import MemoAssist.Text.Numeral

namespace MemoAssist

/-- A moment, in microseconds since the start of 1970. -/
structure Instant where
  micros : Int
deriving DecidableEq, Repr

namespace Instant

/-- The moment at which every clock reads zero: the start of the year 2024. -/
def origin : Instant := ⟨1704067200 * 1000000⟩

def microsPerDay : Int := 86400 * 1000000

/-- The first moment of the year 1 and the first after the year 9999. -/
def calendarStart : Int := -719162 * microsPerDay

def calendarEnd : Int := 2932897 * microsPerDay

/-- Spans of a thousand million days or more are not kept. -/
def longestSpan : Int := 1000000000 * microsPerDay

/-- The moment a span later, as long as the span and the moment stay within the calendar. -/
def after (t : Instant) (span : Int) : Except Fault Instant :=
  let micros := t.micros + span
  if longestSpan - microsPerDay < -span ∨ longestSpan ≤ span ∨ micros < calendarStart
      ∨ calendarEnd ≤ micros then
    .error (.of .outOfRange)
  else .ok ⟨micros⟩

/-- The moment at which a clock shows a reading. -/
def ofReading {τ : Type} [TimeScale τ] (reading : τ) : Instant :=
  ⟨origin.micros + TimeScale.micros reading⟩

/-- Nanoseconds since the start of 1970 at a reading. -/
def nanosOfReading {τ : Type} [TimeScale τ] (reading : τ) : Int :=
  origin.micros * 1000 + TimeScale.nanos reading

/-- Year, month and day of a number of days since the start of 1970. Years are counted from March,
so that the day that may be missing is the last. -/
def dateOfDays (days : Int) : Int × Nat × Nat :=
  let z := days + 719468
  let era := z / 146097
  let dayOfEra := (z - era * 146097).toNat
  let yearOfEra := (dayOfEra - dayOfEra / 1460 + dayOfEra / 36524 - dayOfEra / 146096) / 365
  let dayOfYear := dayOfEra - (365 * yearOfEra + yearOfEra / 4 - yearOfEra / 100)
  let shifted := (5 * dayOfYear + 2) / 153
  let day := dayOfYear - (153 * shifted + 2) / 5 + 1
  let month := if shifted < 10 then shifted + 3 else shifted - 9
  let year : Int := yearOfEra + era * 400
  (if month ≤ 2 then year + 1 else year, month, day)

/-- Date and time with their offset; the fraction of a second is left out when it is zero. -/
def text (t : Instant) : String :=
  let days := t.micros / microsPerDay
  let rest := (t.micros - days * microsPerDay).toNat
  let (year, month, day) := dateOfDays days
  let seconds := rest / 1000000
  let fraction := rest % 1000000
  let field (width n : Nat) := String.ofList (Text.padded width n)
  field 4 year.toNat ++ "-" ++ field 2 month ++ "-" ++ field 2 day ++ "T" ++
    field 2 (seconds / 3600) ++ ":" ++ field 2 (seconds / 60 % 60) ++ ":" ++ field 2 (seconds % 60) ++
    (if fraction = 0 then "" else "." ++ field 6 fraction) ++ "+00:00"

end Instant

end MemoAssist

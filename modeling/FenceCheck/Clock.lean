import FenceCheck.Toml.Moment

/-!
Points in time as text: the stamp of a log event.
-/
namespace FenceCheck.Clock
open FenceCheck.Toml

/-- The day that lies a number of days after the first of January 1970. Years are counted from March, so
that the day more of a leap year comes last. -/
def dateOfDay (days : Nat) : Date :=
  let shifted := days + 719468
  let era := shifted / 146097
  let dayOfEra := shifted % 146097
  let yearOfEra := (dayOfEra - dayOfEra / 1460 + dayOfEra / 36524 - dayOfEra / 146096) / 365
  let dayOfYear := dayOfEra - (365 * yearOfEra + yearOfEra / 4 - yearOfEra / 100)
  let month := (5 * dayOfYear + 2) / 153
  let day := dayOfYear - (153 * month + 2) / 5 + 1
  let number := if month < 10 then month + 3 else month - 9
  ⟨yearOfEra + era * 400 + (if number ≤ 2 then 1 else 0), number, day⟩

/-- The date and the time a number of microseconds after the start of 1970. -/
def momentOf (micros : Nat) : DateTime :=
  let seconds := micros / 1000000
  let ofDay := seconds % 86400
  ⟨dateOfDay (seconds / 86400),
    ⟨ofDay / 3600, ofDay / 60 % 60, ofDay % 60, micros % 1000000⟩, some 0⟩

def stamp (m : DateTime) : String := m.iso

end FenceCheck.Clock

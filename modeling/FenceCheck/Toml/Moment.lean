import FenceCheck.Number.Notation

/-!
Dates and times of TOML documents, with their two texts: the standard form, and the literal form that
messages show.
-/
namespace FenceCheck.Toml

structure Date where
  year : Nat
  month : Nat
  day : Nat
  deriving DecidableEq, Repr, Inhabited

/-- A time of day, to the microsecond. -/
structure Time where
  hour : Nat
  minute : Nat
  second : Nat
  micro : Nat
  deriving DecidableEq, Repr, Inhabited

/-- A date with a time, and the offset from universal time in minutes where one is given. -/
structure DateTime where
  date : Date
  time : Time
  offset : Option Int
  deriving DecidableEq, Repr, Inhabited

def isLeap (year : Nat) : Bool :=
  year % 4 = 0 && (year % 100 ≠ 0 || year % 400 = 0)

def daysIn (year month : Nat) : Nat :=
  if month = 2 then (if isLeap year then 29 else 28)
  else if month = 4 ∨ month = 6 ∨ month = 9 ∨ month = 11 then 30
  else 31

def Date.isValid (d : Date) : Bool :=
  1 ≤ d.year && 1 ≤ d.month && d.month ≤ 12 && 1 ≤ d.day && d.day ≤ daysIn d.year d.month

def padded (width n : Nat) : String :=
  let digits := toString n
  String.ofList (Number.zeros (width - digits.length)) ++ digits

def Date.iso (d : Date) : String :=
  padded 4 d.year ++ "-" ++ padded 2 d.month ++ "-" ++ padded 2 d.day

/-- The standard form of a time; microseconds only where there are any. -/
def Time.iso (t : Time) : String :=
  padded 2 t.hour ++ ":" ++ padded 2 t.minute ++ ":" ++ padded 2 t.second
    ++ (if t.micro = 0 then "" else "." ++ padded 6 t.micro)

def offsetIso (minutes : Int) : String :=
  (if minutes < 0 then "-" else "+") ++ padded 2 (minutes.natAbs / 60) ++ ":"
    ++ padded 2 (minutes.natAbs % 60)

def DateTime.iso (m : DateTime) : String :=
  m.date.iso ++ "T" ++ m.time.iso ++ (match m.offset with | none => "" | some o => offsetIso o)

def listed (ns : List Nat) : String :=
  String.intercalate ", " (ns.map toString)

/-- The parts of a time, without zero microseconds, and then without zero seconds, at the end. -/
def Time.parts (t : Time) : List Nat :=
  if t.micro ≠ 0 then [t.hour, t.minute, t.second, t.micro]
  else if t.second ≠ 0 then [t.hour, t.minute, t.second]
  else [t.hour, t.minute]

def Date.parts (d : Date) : List Nat :=
  [d.year, d.month, d.day]

def Date.literal (d : Date) : String :=
  "datetime.date(" ++ listed d.parts ++ ")"

def Time.literal (t : Time) : String :=
  "datetime.time(" ++ listed t.parts ++ ")"

/-- The literal form of an offset: a number of seconds, counted up from the day before if negative. -/
def offsetLiteral (minutes : Int) : String :=
  if minutes = 0 then "datetime.timezone.utc"
  else if minutes < 0 then
    "datetime.timezone(datetime.timedelta(days=-1, seconds=" ++ toString (86400 + minutes * 60) ++ "))"
  else "datetime.timezone(datetime.timedelta(seconds=" ++ toString (minutes * 60) ++ "))"

def DateTime.literal (m : DateTime) : String :=
  "datetime.datetime(" ++ listed (m.date.parts ++ m.time.parts)
    ++ (match m.offset with | none => "" | some o => ", tzinfo=" ++ offsetLiteral o) ++ ")"

end FenceCheck.Toml

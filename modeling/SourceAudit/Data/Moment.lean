/-! Points in time. -/

namespace SourceAudit

structure Moment where
  year : Nat
  month : Nat
  day : Nat
  hour : Nat := 0
  minute : Nat := 0
  second : Nat := 0
  microsecond : Nat := 0
  /-- The distance from universal time in minutes, if it is known. -/
  zone : Option Int := none
  deriving DecidableEq, Repr

namespace Moment

def isLeap (year : Nat) : Bool := year % 4 == 0 && (year % 100 != 0 || year % 400 == 0)

def daysIn (year month : Nat) : Nat :=
  if month == 2 then (if isLeap year then 29 else 28)
  else if [4, 6, 9, 11].contains month then 30 else 31

def isDay (year month day : Nat) : Bool := 1 ≤ year && 1 ≤ month && month ≤ 12 && 1 ≤ day && day ≤ daysIn year month

/-- The day so many days behind the first of March of the year zero; years begin in March. -/
def ofDays (days : Nat) : Moment :=
  let era := days / 146097
  let dayOfEra := days % 146097
  let yearOfEra := (dayOfEra - dayOfEra / 1460 + dayOfEra / 36524 - dayOfEra / 146096) / 365
  let dayOfYear := dayOfEra - (365 * yearOfEra + yearOfEra / 4 - yearOfEra / 100)
  let month := (5 * dayOfYear + 2) / 153
  { year := 400 * era + yearOfEra + (if month < 10 then 0 else 1)
    month := if month < 10 then month + 3 else month - 9
    day := dayOfYear - (153 * month + 2) / 5 + 1 }

def ofSeconds (seconds : Nat) : Moment :=
  let rest := seconds % 86400
  { ofDays (719468 + seconds / 86400) with
    hour := rest / 3600, minute := rest / 60 % 60, second := rest % 60 }

def padded (width n : Nat) : String :=
  let digits := toString n
  String.ofList (List.replicate (width - digits.length) '0') ++ digits

def date (m : Moment) : String := padded 4 m.year ++ "-" ++ padded 2 m.month ++ "-" ++ padded 2 m.day

def time (m : Moment) : String := padded 2 m.hour ++ ":" ++ padded 2 m.minute ++ ":" ++ padded 2 m.second

def zoneText (minutes : Int) : String :=
  (if minutes < 0 then "-" else "+") ++ padded 2 (minutes.natAbs / 60) ++ ":" ++ padded 2 (minutes.natAbs % 60)

def preciseTime (m : Moment) : String := m.time ++ (if m.microsecond == 0 then "" else "." ++ padded 6 m.microsecond)

def dateTime (m : Moment) : String := m.date ++ " " ++ m.preciseTime ++ m.zone.elim "" zoneText

def stamp (m : Moment) : String := m.date ++ "T" ++ m.time ++ "Z"

end Moment

end SourceAudit

import ReviewDesk.Json.Writer

/-!
Dates and times to the microsecond, with or without an offset from UTC.
-/
namespace ReviewDesk

/-- A date and time as shown on a clock, and how far that clock is ahead of UTC if it is known. -/
structure Moment where
  /-- Microseconds from the start of 1970 to the time shown. -/
  wall : Int
  /-- Seconds ahead of UTC. -/
  zone : Option Int
  deriving DecidableEq, Repr

namespace Moment

def second : Int := 1000000

def day : Int := 86400 * second

/-- Days from the start of 1970 to a date. -/
def daysOfDate (year month dayOfMonth : Int) : Int :=
  let y := if month ≤ 2 then year - 1 else year
  let era := y / 400
  let yearOfEra := y % 400
  let shifted := (month + 9) % 12
  let dayOfYear := (153 * shifted + 2) / 5 + dayOfMonth - 1
  let dayOfEra := yearOfEra * 365 + yearOfEra / 4 - yearOfEra / 100 + dayOfYear
  era * 146097 + dayOfEra - 719468

/-- Year, month and day of the month. -/
def dateOfDays (days : Int) : Int × Int × Int :=
  let z := days + 719468
  let era := z / 146097
  let dayOfEra := z % 146097
  let yearOfEra := (dayOfEra - dayOfEra / 1460 + dayOfEra / 36524 - dayOfEra / 146096) / 365
  let dayOfYear := dayOfEra - (365 * yearOfEra + yearOfEra / 4 - yearOfEra / 100)
  let shifted := (5 * dayOfYear + 2) / 153
  let dayOfMonth := dayOfYear - (153 * shifted + 2) / 5 + 1
  let month := if shifted < 10 then shifted + 3 else shifted - 9
  let year := yearOfEra + era * 400
  (if month ≤ 2 then year + 1 else year, month, dayOfMonth)

def isLeap (year : Int) : Bool :=
  year % 4 == 0 && (year % 100 != 0 || year % 400 == 0)

def daysInMonth (year month : Int) : Int :=
  if month == 2 then (if isLeap year then 29 else 28)
  else if [4, 6, 9, 11].contains month then 30
  else 31

/-- A moment of UTC. -/
def utc (wall : Int) : Moment := ⟨wall, some 0⟩

/-- Microseconds of UTC since the start of 1970; a clock of unknown offset counts as UTC. -/
def instant (m : Moment) : Int :=
  m.wall - m.zone.getD 0 * second

def addMicroseconds (m : Moment) (n : Int) : Moment :=
  { m with wall := m.wall + n }

/-- Whole seconds since the start of 1970, rounded down. -/
def wholeSeconds (m : Moment) : Int :=
  m.instant / second

/-- The first and the last moment that have a four-digit year. -/
def firstWall : Int := daysOfDate 1 1 1 * day
def lastWall : Int := daysOfDate 10000 1 1 * day - 1

def inRange (m : Moment) : Bool :=
  firstWall ≤ m.wall && m.wall ≤ lastWall

/-- The start of the day shown. -/
def startOfDay (m : Moment) : Moment :=
  { m with wall := m.wall - m.wall % day }

def padded (width : Nat) (n : Int) : String :=
  let s := toString n.natAbs
  String.ofList (List.replicate (width - s.length) '0') ++ s

def dateText (m : Moment) : String :=
  let (y, mo, d) := dateOfDays (m.wall / day)
  s!"{padded 4 y}-{padded 2 mo}-{padded 2 d}"

/-- Hours, minutes and seconds. -/
def clockText (m : Moment) : String :=
  let seconds := m.wall % day / second
  s!"{padded 2 (seconds / 3600)}:{padded 2 (seconds / 60 % 60)}:{padded 2 (seconds % 60)}"

def fraction (m : Moment) : Int := m.wall % second

def offsetText (offset : Int) : String :=
  let n : Int := offset.natAbs
  let sign := if offset < 0 then "-" else "+"
  let seconds := if n % 60 == 0 then "" else ":" ++ padded 2 (n % 60)
  s!"{sign}{padded 2 (n / 3600)}:{padded 2 (n / 60 % 60)}{seconds}"

def zoneText (m : Moment) : String :=
  m.zone.elim "" offsetText

/-- The text that is stored: always six digits after the point. -/
def storedText (m : Moment) : String :=
  s!"{m.dateText}T{m.clockText}.{padded 6 m.fraction}{m.zoneText}"

/-- The text in reports and details: digits after the point only if there are any. -/
def isoText (m : Moment) : String :=
  let rest := if m.fraction == 0 then "" else "." ++ padded 6 m.fraction
  s!"{m.dateText}T{m.clockText}{rest}{m.zoneText}"

/-- The text in answers: like `isoText`, with `Z` for UTC. -/
def answerText (m : Moment) : String :=
  let rest := if m.fraction == 0 then "" else "." ++ padded 6 m.fraction
  let zone := if m.zone == some 0 then "Z" else m.zoneText
  s!"{m.dateText}T{m.clockText}{rest}{zone}"

def json (m : Moment) : Json := .str m.answerText

end Moment

end ReviewDesk

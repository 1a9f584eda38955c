import ReviewDesk.Time.Moment
import ReviewDesk.Decimal.Reading

/-!
Reading dates and times: the forms of RFC 3339 with some freedom, and counts of seconds.
-/
namespace ReviewDesk.Moment

/-- Why a text is no date. -/
inductive Fault where
  | tooShort
  | yearCharacter
  | dateSeparator
  | monthCharacter
  | dayCharacter
  | month
  | dayOfMonth
  | extraCharacters
  | notExact
  | tooSmall
  | tooLarge
  | notNumber
  deriving Repr, DecidableEq

def Fault.text : Fault → String
  | tooShort => "input is too short"
  | yearCharacter => "invalid character in year"
  | dateSeparator => "invalid date separator, expected `-`"
  | monthCharacter => "invalid character in month"
  | dayCharacter => "invalid character in day"
  | month => "month value is outside expected range of 1-12"
  | dayOfMonth => "day value is outside expected range"
  | extraCharacters => "unexpected extra characters at the end of the input"
  | notExact => "datetimes provided to dates should have zero time - e.g. be exact dates"
  | tooSmall => "dates before 0000 are not supported as unix timestamps"
  | tooLarge => "dates after 9999 are not supported as unix timestamps"
  | notNumber => "NaN values not permitted"

def digits? (cs : List Char) : Option Int :=
  if !cs.isEmpty && cs.all Char.isDigit then
    some (cs.foldl (fun n c => 10 * n + ((c.toNat - 48 : Nat) : Int)) 0)
  else none

/-- A date at the start of a text, as days since the start of 1970. -/
def readDate (cs : List Char) : Except Fault (Int × List Char) := do
  if cs.length < 10 then throw .tooShort
  let some year := digits? (cs.take 4) | throw .yearCharacter
  if cs[4]? != some '-' then throw .dateSeparator
  let some month := digits? ((cs.drop 5).take 2) | throw .monthCharacter
  if cs[7]? != some '-' then throw .dateSeparator
  let some dayOfMonth := digits? ((cs.drop 8).take 2) | throw .dayCharacter
  if month < 1 || 12 < month then throw .month
  if dayOfMonth < 1 || daysInMonth year month < dayOfMonth then throw .dayOfMonth
  return (daysOfDate year month dayOfMonth, cs.drop 10)

/-- Two digits at most `most`. -/
def twoDigits (most : Int) (cs : List Char) : Option (Int × List Char) := do
  let n ← digits? (cs.take 2)
  if cs.length < 2 || most < n then none else some (n, cs.drop 2)

/-- Digits after a point, of which six count. -/
def readFraction (cs : List Char) : Option (Int × List Char) := do
  let ds := cs.takeWhile Char.isDigit
  let kept := ds.take 6
  let n ← digits? kept
  some (n * Nat.pow 10 (6 - kept.length), cs.drop ds.length)

/-- Hours and minutes, and perhaps seconds with a fraction, in microseconds. -/
def readClock (cs : List Char) : Option (Int × List Char) := do
  let (hour, cs) ← twoDigits 23 cs
  guard (cs.head? == some ':')
  let (minute, cs) ← twoDigits 59 (cs.drop 1)
  let start := (hour * 3600 + minute * 60) * second
  match cs with
  | ':' :: cs =>
    let (s, cs) ← twoDigits 59 cs
    match cs with
    | '.' :: rest =>
      let (f, rest) ← readFraction rest
      some (start + s * second + f, rest)
    | ',' :: rest =>
      let (f, rest) ← readFraction rest
      some (start + s * second + f, rest)
    | _ => some (start + s * second, cs)
  | _ => some (start, cs)

/-- An offset up to the end of the text; none at all is allowed. -/
def readZone (cs : List Char) : Option (Option Int) :=
  match cs with
  | [] => some none
  | ['Z'] => some (some 0)
  | ['z'] => some (some 0)
  | sign :: rest =>
    if sign == '+' || sign == '-' || sign == '−' then do
      let (hour, rest) ← twoDigits 23 rest
      let minutes := match rest with
        | ':' :: ms => ms
        | ms => ms
      let minute ← if rest.isEmpty then some 0 else
        (twoDigits 59 minutes).bind fun (m, rest) => if rest.isEmpty then some m else none
      let n := hour * 3600 + minute * 60
      some (some (if sign == '+' then n else -n))
    else none

/-- Seconds since the start of 1970, or milliseconds if there are very many, and microseconds. -/
def ofSeconds (n : Int) (micros : Int) : Except Fault Moment :=
  let wall := (if 20000000000 < n.natAbs then n * 1000 else n * second) + micros
  if wall < daysOfDate 0 1 1 * day then .error .tooSmall
  else if lastWall < wall then .error .tooLarge
  else .ok (utc wall)

/-- The number of seconds rounded down, and as many microseconds as the size of its fraction. -/
def ofReal (x : Float) : Except Fault Moment :=
  match Decimal.Binary.ofFloat? x with
  | some b =>
    let (num, den) := b.ratio
    let floor := if b.negative && !b.isWhole then b.truncate - 1 else b.truncate
    ofSeconds floor ((2 * (num % den) * 1000000 + den) / (2 * den))
  | none =>
    if x.isNaN then .error .notNumber else .error (if x < 0 then .tooSmall else .tooLarge)

/-- A whole number, with a sign perhaps. -/
def wholeNumber? (cs : List Char) : Option Int :=
  match cs with
  | '-' :: ds => (digits? ds).map (- ·)
  | '+' :: ds => digits? ds
  | ds => digits? ds

/-- Digits with a point among them, with a sign perhaps. -/
def decimal? (cs : List Char) : Option Float :=
  let ds := match cs with
    | '-' :: ds => ds
    | '+' :: ds => ds
    | ds => ds
  if (ds.head?.map Char.isDigit).getD false && ds.all fun c => c.isDigit || c == '.' then
    Decimal.readReal? cs
  else none

/-- A date and a time, divided by `T`, a blank or an underscore. -/
def readFull? (cs : List Char) : Option Moment := do
  let (days, rest) ← (readDate cs).toOption
  match rest with
  | separator :: rest =>
    guard (['T', 't', ' ', '_'].contains separator)
    let (clock, rest) ← readClock rest
    let zone ← readZone rest
    some ⟨days * day + clock, zone⟩
  | [] => none

/-- An offset of hours and minutes, and perhaps seconds, or none at all. -/
def readOffset? (cs : List Char) : Option (Option Int) :=
  match cs with
  | [] => some none
  | sign :: rest =>
    if sign == '+' || sign == '-' then do
      let (hour, rest) ← twoDigits 23 rest
      guard (rest.head? == some ':')
      let (minute, rest) ← twoDigits 59 (rest.drop 1)
      let (s, rest) ← match rest with
        | ':' :: rest => twoDigits 59 rest
        | _ => some (0, rest)
      guard rest.isEmpty
      let n := hour * 3600 + minute * 60 + s
      some (some (if sign == '+' then n else -n))
    else none

/-- The moment of a stored text. -/
def readStored? (s : String) : Option Moment := do
  let (days, rest) ← (readDate s.toList).toOption
  match rest with
  | 'T' :: rest =>
    let (clock, rest) ← readClock rest
    let zone ← readOffset? rest
    some ⟨days * day + clock, zone⟩
  | _ => none

/-- A date alone, which is its midnight. -/
def readDateOnly (cs : List Char) : Except Fault Moment :=
  match readDate cs with
  | .ok (days, []) => .ok ⟨days * day, none⟩
  | .ok (_, _) => .error .extraCharacters
  | .error fault =>
    match wholeNumber? cs with
    | some n => do
      let m ← ofSeconds n 0
      if m.wall % day == 0 then return { m with zone := none } else throw .notExact
    | none => .error fault

/-- A date with a time, a count of seconds, or a date alone. -/
def parse (s : String) : Except Fault Moment :=
  let cs := s.toList
  match readFull? cs with
  | some m => .ok m
  | none =>
    let count := match wholeNumber? cs with
      | some n => some (ofSeconds n 0)
      | none => (decimal? cs).map ofReal
    match count.bind Except.toOption with
    | some m => .ok m
    | none => readDateOnly cs

end ReviewDesk.Moment

import ReviewDesk.Validation.Basic
import ReviewDesk.Decimal.Reading
import ReviewDesk.Text.Blank
import ReviewDesk.Time.Reading
import ReviewDesk.Uuid

/-!
Reading fields of records from JSON. Conversion is lax: numbers may come as text, flags as words,
and whole numbers as doubles without a fraction.
-/
namespace ReviewDesk.Field

/-- How a value of a field is read. -/
abbrev Reader (α : Type) := Json → Checked α

def text : Reader String
  | .str s => .good s
  | _ => .fail .notText

/-- Text whose number of characters lies between two bounds. -/
def checkLength (least most : Option Nat) (s : String) : Checked String :=
  let n := s.length
  match least, most with
  | some l, some m =>
    if n < l then .fail (.textTooShort l) else if m < n then .fail (.textTooLong m) else .good s
  | some l, none => if n < l then .fail (.textTooShort l) else .good s
  | none, some m => if m < n then .fail (.textTooLong m) else .good s
  | none, none => .good s

def textBetween (least most : Option Nat) : Reader String :=
  fun v => (text v).andThen (checkLength least most)

/-- Whether two underscores stand side by side. -/
def doubled : List Char → Bool
  | '_' :: '_' :: _ => true
  | _ :: cs => doubled cs
  | [] => false

/-- The digits of a whole number as they may be written in text, or none. Leading zeros go, a
fraction of zeros goes, and single underscores between digits go. -/
def cleanDigits? (cs : List Char) : Option (List Char) := do
  let cs ← dropZeros cs
  let cs := match cs.span (· != '.') with
    | (whole, '.' :: fraction) => if fraction.all (· == '0') then whole else cs
    | _ => cs
  if !cs.contains '_' then some cs
  else if cs.head? == some '_' || cs.getLast? == some '_' || doubled cs then none
  else some (cs.filter (· != '_'))
where
  /-- Zeros and underscores in front of the first other digit; a single zero stays. -/
  dropZeros (cs : List Char) : Option (List Char) :=
    match cs with
    | '0' :: rest =>
      match rest.dropWhile (fun c => c == '0' || c == '_') with
      | [] => cs.getLast?.map fun c => [c]
      | '.' :: fraction => some ('0' :: '.' :: fraction)
      | c :: more => if c.isDigit then some (c :: more) else none
    | '-' :: _ => some cs
    | c :: _ => if c.isDigit then some cs else none
    | [] => none

/-- A number with an optional minus sign and no needless zero in front. -/
def plainInteger? (cs : List Char) : Option Int :=
  let (negative, ds) := match cs with
    | '-' :: ds => (true, ds)
    | ds => (false, ds)
  if ds.isEmpty || !ds.all Char.isDigit || (ds.head? == some '0' && 1 < ds.length) then none
  else
    let n : Int := (ds.foldl (fun n d => 10 * n + (d.toNat - 48)) 0 : Nat)
    some (if negative then -n else n)

/-- A whole number written as text. -/
def integerOfText (s : String) : Checked Int :=
  let cs := Text.trimBy Text.isWhiteSpace s.toList
  let cs := match cs with
    | '+' :: rest => if rest.head? == some '-' then cs else rest
    | _ => cs
  if 4300 < cs.length then .fail .integerTooLong
  else match (cleanDigits? cs).bind plainInteger? with
    | some n => .good n
    | none => .fail .integerUnreadable

/-- A double without a fraction. -/
def integerOfReal (x : Float) : Checked Int :=
  match Decimal.Binary.ofFloat? x with
  | none => .fail .notFinite
  | some b =>
    if !b.isWhole then .fail .integerHasFraction
    else if b.truncate ≤ -0x8000000000000000 || 0x8000000000000000 ≤ b.truncate then .fail .integerTooLong
    else .good b.truncate

def integer : Reader Int
  | .int n => .good n
  | .bool b => .good (if b then 1 else 0)
  | .real x => integerOfReal x
  | .str s => integerOfText s
  | _ => .fail .notInteger

def checkAtLeast (least : Int) (n : Int) : Checked Int :=
  if n < least then .fail (.tooSmall least) else .good n

def checkAtMost (most : Int) (n : Int) : Checked Int :=
  if most < n then .fail (.tooLarge most) else .good n

def integerFrom (least : Int) : Reader Int :=
  fun v => (integer v).andThen (checkAtLeast least)

def integerBetween (least most : Int) : Reader Int :=
  fun v => ((integer v).andThen (checkAtMost most)).andThen (checkAtLeast least)

/-- The text of a decimal number. One that cannot be read as it stands is read without its
underscores, unless they stand at an end or side by side. -/
def realOfText? (s : String) : Option Float :=
  let plain := Decimal.readReal? (Text.trimBy Text.isWhiteSpace s.toList)
  let cs := s.toList
  if plain.isSome then plain
  else if !cs.contains '_' || cs.head? == some '_' || cs.getLast? == some '_' || doubled cs then none
  else Decimal.readReal? (cs.filter (· != '_'))

/-- The double nearest to a whole number. -/
def realOfInt (n : Int) : Float :=
  let x := Decimal.ofDigits n.natAbs 0
  if n < 0 then -x else x

def real : Reader Float
  | .int n => .good (realOfInt n)
  | .real x => .good x
  | .bool b => .good (if b then 1 else 0)
  | .str s =>
    match realOfText? s with
    | some x => .good x
    | none => .fail .numberUnreadable
  | _ => .fail .notNumber

def booleanOfInteger (n : Int) : Checked Bool :=
  if n == 0 then .good false else if n == 1 then .good true else .fail .booleanUnreadable

def boolean : Reader Bool
  | .bool b => .good b
  | .int n => booleanOfInteger n
  | .real x =>
    match integerOfReal x with
    | .good n => booleanOfInteger n
    | .bad _ => .fail .notBoolean
  | .str s =>
    let word := String.ofList (s.toList.map Char.toLower)
    if ["1", "on", "t", "true", "y", "yes"].contains word then .good true
    else if ["0", "off", "f", "false", "n", "no"].contains word then .good false
    else .fail .booleanUnreadable
  | _ => .fail .notBoolean

/-- One of the named values. -/
def oneOf {α : Type} (all : List α) (name : α → String) : Reader α := fun v =>
  let found := match v with
    | .str s => all.find? (name · == s)
    | _ => none
  match found with
  | some a => .good a
  | none => .fail (.notOneOf (all.map name))

def identifier : Reader Uuid
  | .str s =>
    match Uuid.parse s with
    | .ok u => .good u
    | .error fault => .fail (.identifierUnreadable fault.text)
  | _ => .fail .notIdentifier

/-- A moment that is given by a count of seconds. -/
def checkCount (result : Except Moment.Fault Moment) : Checked Moment :=
  match result with
  | .ok m => .good m
  | .error fault => .fail (.momentOutOfReach fault.text)

def moment : Reader Moment
  | .str s =>
    match Moment.parse s with
    | .ok m => .good m
    | .error fault => .fail (.momentUnreadable fault.text)
  | .int n => checkCount (Moment.ofSeconds n 0)
  | .real x => checkCount (Moment.ofReal x)
  | _ => .fail .notMoment

/-- A list whose items may be read by their position. -/
def indexed {α : Type} (item : Nat → Reader α) : Reader (List α)
  | .arr items => Checked.each item items
  | _ => .fail .notList

def list {α : Type} (item : Reader α) : Reader (List α) := indexed fun _ => item

/-- A value or null. -/
def nullable {α : Type} (inner : Reader α) : Reader (Option α)
  | .null => .good none
  | v => (inner v).map some

/-- Names under which a field may come; the first that is there counts and names the place of a
problem. -/
structure Key where
  names : List String

instance : Coe String Key := ⟨fun s => ⟨[s]⟩⟩

def Key.find (key : Key) (fields : List (String × Json)) : Option (String × Json) :=
  key.names.findSome? fun name => (Json.lookup? fields name).map fun v => (name, v)

/-- A field that has to be there. -/
def required {α : Type} (fields : List (String × Json)) (key : Key) (read : Reader α) :
    Checked α :=
  match key.find fields with
  | some (name, v) => (read v).under name
  | none => (Checked.fail .missing).under (key.names.headD "")

/-- A field with a value for when it is left out. -/
def optional {α : Type} (fields : List (String × Json)) (key : Key) (fallback : α)
    (read : Reader α) : Checked α :=
  match key.find fields with
  | some (name, v) => (read v).under name
  | none => .good fallback

/-- A new value for the field of the given name of a record. -/
def assigned {α β : Type} (name : String) (v : Json) (read : Reader α) (set : α → β) :
    Checked β :=
  ((read v).map set).under name

/-- A record read from an object. -/
def record {α : Type} (name : String) (read : List (String × Json) → Checked α) : Reader α
  | .obj fields => read fields
  | _ => .fail (.notRecord name)

end ReviewDesk.Field

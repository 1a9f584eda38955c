import ReviewDesk.Json.Writer
import ReviewDesk.Text.Blank
import ReviewDesk.Text.Digit

/-!
Universally unique identifiers. There are two readers: a strict one that says what is wrong, and a
generous one for identifiers that come in tokens and headers.
-/
namespace ReviewDesk

structure Uuid where
  value : BitVec 128
  deriving DecidableEq, Repr

namespace Uuid

def ofNat (n : Nat) : Uuid := ⟨BitVec.ofNat 128 n⟩

/-- The five groups of hexadecimal digits, with hyphens. -/
def text (u : Uuid) : String :=
  let ds := (Json.hexText 32 u.value.toNat).toList
  "-".intercalate (([(0, 8), (8, 4), (12, 4), (16, 4), (20, 12)].map fun (start, size) =>
    String.ofList ((ds.drop start).take size)))

inductive Fault where
  | character (found : Char) (index : Nat)
  | length (found : Nat)
  | groupCount (found : Nat)
  | groupLength (group found : Nat)
  deriving Repr, DecidableEq

/-- Lengths of the groups. -/
def groupLengths : List Nat := [8, 4, 4, 4, 12]

def Fault.text : Fault → String
  | character c index => s!"invalid character: found `{String.singleton c}` at {index}"
  | length found => s!"invalid length: found {found}"
  | groupCount found => s!"invalid group count: expected 5, found {found}"
  | groupLength group found =>
    s!"invalid group length in group {group}: expected {groupLengths.getD group 0}, found {found}"

def hexNumber (cs : List Char) : Nat :=
  cs.foldl (fun n c => 16 * n + (Json.hexDigit? c).getD 0) 0

/-- Splits at hyphens. -/
def groups (cs : List Char) : List (List Char) :=
  cs.foldr (fun c acc =>
    if c == '-' then [] :: acc
    else match acc with
      | g :: gs => (c :: g) :: gs
      | [] => [[c]]) [[]]

/-- What stands inside braces or after the name of the scheme, with the length of what was cut off
in front. -/
def unwrap (cs : List Char) : List Char × Nat × Bool :=
  match cs with
  | '\x7b' :: rest =>
    if rest.getLast? == some '\x7d' then (rest.dropLast, 1, true) else (cs, 0, false)
  | _ =>
    let scheme := "urn:uuid:".toList
    if scheme.isPrefixOf cs then (cs.drop scheme.length, scheme.length, true) else (cs, 0, false)

/-- The first group whose length is wrong, and the length found. Groups are measured from where
they should start. -/
def wrongGroup (total : Nat) (lengths : List Nat) : Fault :=
  let rec go (group expectedStart start : Nat) : List Nat → Fault
    | [] => .groupLength 4 (total - 24)
    | [_] => .groupLength 4 (total - 24)
    | n :: rest =>
      let expected := groupLengths.getD group 0
      if start + n == expectedStart + expected then
        go (group + 1) (expectedStart + expected + 1) (start + n + 1) rest
      else .groupLength group (start + n - expectedStart)
  go 0 0 0 lengths

/-- The first character that is neither a digit nor a hyphen, with its place in bytes. -/
def stray? (offset : Nat) : List Char → Option (Char × Nat)
  | [] => none
  | c :: cs =>
    if c == '-' || (Json.hexDigit? c).isSome then stray? (offset + c.utf8Size) cs
    else some (c, offset)

/-- Thirty-two digits, five groups with hyphens, or either in braces or after `urn:uuid:`, of which
the bare digits only stand alone. -/
def parse (s : String) : Except Fault Uuid :=
  let cs := s.toList
  let (inner, offset, wrapped) := unwrap cs
  let bytes := s.utf8ByteSize
  let bad := stray? offset inner
  let gs := groups inner
  if bad.isNone && gs.map List.length == groupLengths then .ok (ofNat (hexNumber gs.flatten))
  else if bad.isNone && !wrapped && inner.length == 32 && gs.length == 1 then .ok (ofNat (hexNumber inner))
  else match bad with
    | some (c, i) => .error (.character c i)
    | none =>
      if gs.length == 1 && !wrapped then .error (.length bytes)
      else if gs.length != 5 then .error (.groupCount gs.length)
      else .error (wrongGroup bytes (gs.map List.length))

/-- Removes every occurrence of a word, from left to right. -/
def removeWord (word : List Char) : Nat → List Char → List Char
  | 0, cs => cs
  | _ + 1, [] => []
  | budget + 1, c :: cs =>
    if word.isPrefixOf (c :: cs) then removeWord word budget ((c :: cs).drop word.length)
    else c :: removeWord word budget cs

/-- A hexadecimal digit, decimal ones of any script included. -/
def wideHexDigit? (c : Char) : Option Nat :=
  match Json.hexDigit? c with
  | some d => some d
  | none => Text.digitValue? c

/-- Digits with single underscores between them. -/
def wideDigits? : List Char → Option (List Nat)
  | [] => none
  | [c] => (wideHexDigit? c).map fun d => [d]
  | c :: '_' :: cs => do return (← wideHexDigit? c) :: (← wideDigits? cs)
  | c :: cs => do return (← wideHexDigit? c) :: (← wideDigits? cs)

/-- A number in base sixteen: blanks around it, a sign and the mark `0x` are allowed. -/
def wideNumber? (cs : List Char) : Option Int :=
  let cs := Text.trimBy Text.isBlank cs
  let (negative, cs) := match cs with
    | '-' :: rest => (true, rest)
    | '+' :: rest => (false, rest)
    | rest => (false, rest)
  let cs := match cs with
    | '0' :: 'x' :: '_' :: rest => rest
    | '0' :: 'X' :: '_' :: rest => rest
    | '0' :: 'x' :: rest => rest
    | '0' :: 'X' :: rest => rest
    | rest => rest
  (wideDigits? cs).map fun ds =>
    let n : Int := (ds.foldl (fun n d => 16 * n + d) 0 : Nat)
    if negative then -n else n

/-- The generous reader: the words of the scheme, hyphens and outer braces are dropped, and what is
left is a number written with thirty-two characters. -/
def parseLoose? (s : String) : Option Uuid :=
  let cs := s.toList
  let cs := removeWord "urn:".toList (cs.length + 1) cs
  let cs := removeWord "uuid:".toList (cs.length + 1) cs
  let cs := Text.trimBy (fun c => c == '\x7b' || c == '\x7d') cs
  let cs := cs.filter (· != '-')
  if cs.length != 32 then none
  else match wideNumber? cs with
    | some n => if 0 ≤ n && n < Nat.pow 2 128 then some (ofNat n.toNat) else none
    | none => none

end Uuid

end ReviewDesk

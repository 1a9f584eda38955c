import ReviewDesk.Json.Basic
import ReviewDesk.Decimal.Shortest

/-!
Reading JSON text. Besides the standard forms the words `NaN`, `Infinity` and `-Infinity` are
numbers. A fault is reported with the place where reading stopped.
-/
namespace ReviewDesk.Json

inductive Problem where
  | byteOrderMark
  | expectingValue
  | expectingKey
  | expectingColon
  | expectingComma
  | extraData
  | unterminatedString
  | controlCharacter
  | badEscape
  | badUnicodeEscape
  deriving Repr, DecidableEq

def Problem.text : Problem → String
  | byteOrderMark => "Unexpected UTF-8 BOM (decode using utf-8-sig)"
  | expectingValue => "Expecting value"
  | expectingKey => "Expecting property name enclosed in double quotes"
  | expectingColon => "Expecting ':' delimiter"
  | expectingComma => "Expecting ',' delimiter"
  | extraData => "Extra data"
  | unterminatedString => "Unterminated string starting at"
  | controlCharacter => "Invalid control character at"
  | badEscape => "Invalid \\escape"
  | badUnicodeEscape => "Invalid \\uXXXX escape"

inductive Fault where
  | misplaced (problem : Problem) (offset : Nat)
  /-- A whole number with more digits than are read. -/
  | tooManyDigits (digits : Nat)
  deriving Repr, DecidableEq

/-- The most digits that a whole number may have. -/
def maxDigits : Nat := 4300

def tooManyDigitsText (digits : Nat) : String :=
  s!"Exceeds the limit ({maxDigits} digits) for integer string conversion: value has {digits} " ++
    "digits; use sys.set_int_max_str_digits() to increase the limit"

/-- The fault in words, with line and column in the text that was read. -/
def Fault.message (source : List Char) : Fault → String
  | misplaced problem offset =>
    let before := source.take offset
    let line := before.count '\n' + 1
    let column := (before.reverse.takeWhile (· != '\n')).length + 1
    s!"{problem.text}: line {line} column {column} (char {offset})"
  | tooManyDigits digits => tooManyDigitsText digits

/-- What remains to be read, and how many characters came before it. -/
structure Cursor where
  offset : Nat
  rest : List Char

namespace Cursor

def fail {α : Type} (c : Cursor) (problem : Problem) : Except Fault α :=
  .error (.misplaced problem c.offset)

def advance (c : Cursor) (n : Nat) : Cursor :=
  ⟨c.offset + n, c.rest.drop n⟩

def skipBlanks (c : Cursor) : Cursor :=
  let blanks := c.rest.takeWhile fun x => x == ' ' || x == '\t' || x == '\n' || x == '\r'
  c.advance blanks.length

end Cursor

/-- The value of four hexadecimal digits. -/
def hex4? : List Char → Option Nat
  | [a, b, c, d] => do
    return ((← hexDigit? a) * 16 + (← hexDigit? b)) * 256 + (← hexDigit? c) * 16 + (← hexDigit? d)
  | _ => none

/-- The letters after a backslash that stand for one character. -/
def simpleEscape? : Char → Option Char
  | '"' => some '"'
  | '\\' => some '\\'
  | '/' => some '/'
  | 'b' => some '\x08'
  | 'f' => some '\x0c'
  | 'n' => some '\n'
  | 'r' => some '\r'
  | 't' => some '\t'
  | _ => none

/-- The rest of a string after its opening quote, which stood at `start`. -/
def readString (start : Nat) : Nat → Cursor → List Char → Except Fault (String × Cursor)
  | 0, _, _ => .error (.misplaced .unterminatedString start)
  | budget + 1, c, done =>
    match c.rest with
    | [] => .error (.misplaced .unterminatedString start)
    | '"' :: _ => .ok (String.ofList done.reverse, c.advance 1)
    | ['\\'] => .error (.misplaced .unterminatedString start)
    | '\\' :: 'u' :: more =>
      if more.length < 5 then (c.advance 1).fail .badUnicodeEscape else
      match hex4? (more.take 4) with
      | none => (c.advance 1).fail .badUnicodeEscape
      | some high =>
        if 0xd800 ≤ high && high < 0xdc00 && 11 ≤ more.length && (more.drop 4).take 2 == ['\\', 'u']
        then
          match hex4? ((more.drop 6).take 4) with
          | none => (c.advance 7).fail .badUnicodeEscape
          | some low =>
            if 0xdc00 ≤ low && low < 0xe000 then
              let code := 0x10000 + (high - 0xd800) * 0x400 + (low - 0xdc00)
              readString start budget (c.advance 12) (Char.ofNat code :: done)
            else readString start budget (c.advance 6) (Char.ofNat 0xfffd :: done)
        else
          let code := if 0xd800 ≤ high && high < 0xe000 then 0xfffd else high
          readString start budget (c.advance 6) (Char.ofNat code :: done)
    | '\\' :: x :: _ =>
      match simpleEscape? x with
      | some y => readString start budget (c.advance 2) (y :: done)
      | none => c.fail .badEscape
    | x :: _ =>
      if x.toNat < 32 then c.fail .controlCharacter
      else readString start budget (c.advance 1) (x :: done)

def digitsValue (ds : List Char) : Nat :=
  ds.foldl (fun n d => 10 * n + (d.toNat - 48)) 0

/-- A number that starts here, if one does. -/
def readNumber (c : Cursor) : Except Fault (Json × Cursor) :=
  let negative := c.rest.head? == some '-'
  let digitsAt := if negative then c.rest.drop 1 else c.rest
  let whole := match digitsAt with
    | '0' :: _ => ['0']
    | ds => ds.takeWhile Char.isDigit
  if whole.isEmpty then c.fail .expectingValue else
  let afterWhole := digitsAt.drop whole.length
  let fraction := match afterWhole with
    | '.' :: ds => ds.takeWhile Char.isDigit
    | _ => []
  let afterFraction :=
    if fraction.isEmpty then afterWhole else afterWhole.drop (fraction.length + 1)
  let (power, width) := readPower afterFraction
  let used := (if negative then 1 else 0) + whole.length +
    (if fraction.isEmpty then 0 else fraction.length + 1) + width
  if fraction.isEmpty && width == 0 then
    if maxDigits < whole.length then .error (.tooManyDigits whole.length)
    else
      let n : Int := digitsValue whole
      .ok (.int (if negative then -n else n), c.advance used)
  else
    let x := Decimal.ofDigits (digitsValue (whole ++ fraction)) (power - fraction.length)
    .ok (.real (if negative then -x else x), c.advance used)
where
  /-- An exponent and the number of characters it takes, none if it has no digits. -/
  readPower (cs : List Char) : Int × Nat :=
    match cs with
    | e :: rest =>
      if e == 'e' || e == 'E' then
        let (minus, ds, sign) := match rest with
          | '-' :: ds => (true, ds, 1)
          | '+' :: ds => (false, ds, 1)
          | ds => (false, ds, 0)
        let digits := ds.takeWhile Char.isDigit
        if digits.isEmpty then (0, 0)
        else
          let n : Int := digitsValue digits
          (if minus then -n else n, 1 + sign + digits.length)
      else (0, 0)
    | [] => (0, 0)

/-- The words that stand for values. -/
def wordValue? (cs : List Char) : Option (Json × Nat) :=
  let words : List (String × Json) :=
    [("null", .null), ("true", .bool true), ("false", .bool false), ("NaN", .real (0.0 / 0.0)),
      ("Infinity", .real (1.0 / 0.0)), ("-Infinity", .real (-1.0 / 0.0))]
  (words.find? fun w => w.1.toList.isPrefixOf cs).map fun w => (w.2, w.1.length)

mutual

/-- The value that starts here. -/
def readValue : Nat → Cursor → Except Fault (Json × Cursor)
  | 0, c => c.fail .expectingValue
  | budget + 1, c =>
    match c.rest with
    | '"' :: _ =>
      (readString c.offset c.rest.length (c.advance 1) []).map fun (s, c) => (.str s, c)
    | '\x7b' :: _ =>
      let c := (c.advance 1).skipBlanks
      match c.rest with
      | '\x7d' :: _ => .ok (.obj [], c.advance 1)
      | _ => (readFields budget c []).map fun (fields, c) => (.obj fields, c)
    | '[' :: _ =>
      let c := (c.advance 1).skipBlanks
      match c.rest with
      | ']' :: _ => .ok (.arr [], c.advance 1)
      | _ => (readItems budget c []).map fun (items, c) => (.arr items, c)
    | _ =>
      match wordValue? c.rest with
      | some (value, n) => .ok (value, c.advance n)
      | none => readNumber c

/-- The items of an array up to its closing bracket; those before are in `done`, last first. -/
def readItems : Nat → Cursor → List Json → Except Fault (List Json × Cursor)
  | 0, c, _ => c.fail .expectingValue
  | budget + 1, c, done => do
    let (value, c) ← readValue budget c
    let c := c.skipBlanks
    match c.rest with
    | ']' :: _ => return ((value :: done).reverse, c.advance 1)
    | ',' :: _ => readItems budget (c.advance 1).skipBlanks (value :: done)
    | _ => c.fail .expectingComma

/-- The fields of an object up to its closing brace, after those in `done`. -/
def readFields : Nat → Cursor → List (String × Json) →
    Except Fault (List (String × Json) × Cursor)
  | 0, c, _ => c.fail .expectingKey
  | budget + 1, c, done => do
    match c.rest with
    | '"' :: _ =>
      let (key, c) ← readString c.offset c.rest.length (c.advance 1) []
      let c := c.skipBlanks
      match c.rest with
      | ':' :: _ =>
        let (value, c) ← readValue budget (c.advance 1).skipBlanks
        let c := c.skipBlanks
        let done := insert key value done
        match c.rest with
        | '\x7d' :: _ => return (done, c.advance 1)
        | ',' :: _ => readFields budget (c.advance 1).skipBlanks done
        | _ => c.fail .expectingComma
      | _ => c.fail .expectingColon
    | _ => c.fail .expectingKey

end

/-- Reads a text that holds one value and blanks around it. -/
def parseChars (source : List Char) : Except Fault Json := do
  if source.head? == some '\ufeff' then throw (.misplaced .byteOrderMark 0)
  let start := (Cursor.mk 0 source).skipBlanks
  let (value, c) ← readValue (2 * source.length + 2) start
  let c := c.skipBlanks
  if c.rest.isEmpty then return value else c.fail .extraData

def parse (source : String) : Except Fault Json :=
  parseChars source.toList

end ReviewDesk.Json

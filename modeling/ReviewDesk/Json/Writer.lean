import ReviewDesk.Json.Basic
import ReviewDesk.Decimal.Shortest

/-!
Writing JSON text. A style says which characters are escaped, how the parts are set apart and
whether keys are sorted.
-/
namespace ReviewDesk.Json

structure Style where
  /-- Characters beyond ASCII are written as escapes. -/
  escapeWide : Bool
  sortKeys : Bool
  /-- Blanks per level; without it all is on one line. -/
  indent : Option Nat
  itemSeparator : String
  keySeparator : String
  numbers : Decimal.Layout

/-- On one line, without blanks, keys in order, all characters as they are. -/
def Style.canonical : Style := ⟨false, true, none, ",", ":", .usual⟩

/-- On one line, without blanks, ASCII only. -/
def Style.compact : Style := ⟨true, false, none, ",", ":", .usual⟩

/-- On one line, without blanks, all characters as they are. -/
def Style.dense : Style := ⟨false, false, none, ",", ":", .usual⟩

/-- On one line, a blank behind each mark, ASCII only. -/
def Style.spaced : Style := ⟨true, false, none, ", ", ": ", .usual⟩

/-- Indented by two blanks, ASCII only. -/
def Style.indented : Style := ⟨true, false, some 2, ",", ": ", .usual⟩

/-- Indented by two blanks, all characters as they are. -/
def Style.document : Style := ⟨false, false, some 2, ",", ": ", .brief⟩

def hexText (width n : Nat) : String :=
  let ds := Nat.toDigits 16 n
  String.ofList (List.replicate (width - ds.length) '0' ++ ds)

/-- The escape of one or, beyond the basic plane, two units. -/
def unicodeEscape (c : Char) : String :=
  let n := c.toNat
  if n < 0x10000 then "\\u" ++ hexText 4 n
  else
    let m := n - 0x10000
    "\\u" ++ hexText 4 (0xd800 + m / 0x400) ++ "\\u" ++ hexText 4 (0xdc00 + m % 0x400)

def escapeChar (style : Style) (c : Char) : String :=
  match c with
  | '"' => "\\\""
  | '\\' => "\\\\"
  | '\n' => "\\n"
  | '\r' => "\\r"
  | '\t' => "\\t"
  | '\x0c' => "\\f"
  | '\x08' => "\\b"
  | c =>
    if c.toNat < 32 || (style.escapeWide && 126 < c.toNat) then unicodeEscape c
    else String.singleton c

def quote (style : Style) (s : String) : String :=
  s.toList.foldl (fun out c => out ++ escapeChar style c) "\"" ++ "\""

/-- The text of a double; the three that are no finite number are words. -/
def realText (style : Style) (x : Float) : String :=
  if x.isNaN then "NaN" else if x.isInf then (if x < 0 then "-Infinity" else "Infinity")
  else style.numbers.text x

/-- A line break and the blanks of a level, if the style breaks lines. -/
def Style.newline (style : Style) (level : Nat) : String :=
  match style.indent with
  | none => ""
  | some n => "\n" ++ String.ofList (List.replicate (n * level) ' ')

/-- Parts between brackets, each on a line of its own if the style breaks lines. -/
def bracket (style : Style) (level : Nat) (opening closing : String) (parts : List String) :
    String :=
  if parts.isEmpty then opening ++ closing
  else
    opening ++ style.newline (level + 1) ++
      (style.itemSeparator ++ style.newline (level + 1)).intercalate parts ++
      style.newline level ++ closing

/-- Parts of an object in the order that the style asks for. -/
def arrange (style : Style) (parts : List (String × String)) : List (String × String) :=
  if style.sortKeys then parts.mergeSort (fun a b => a.1 ≤ b.1) else parts

mutual

def writeAt (style : Style) (level : Nat) : Json → String
  | null => "null"
  | bool b => if b then "true" else "false"
  | int n => toString n
  | real x => realText style x
  | str s => quote style s
  | arr items => bracket style level "[" "]" (writeItems style (level + 1) items)
  | obj fields =>
    let parts := arrange style (writeFields style (level + 1) fields)
    bracket style level "\x7b" "\x7d"
      (parts.map fun (k, v) => quote style k ++ style.keySeparator ++ v)

def writeItems (style : Style) (level : Nat) : List Json → List String
  | [] => []
  | v :: vs => writeAt style level v :: writeItems style level vs

def writeFields (style : Style) (level : Nat) : List (String × Json) → List (String × String)
  | [] => []
  | (k, v) :: rest => (k, writeAt style level v) :: writeFields style level rest

end

def write (style : Style) (v : Json) : String :=
  writeAt style 0 v

end ReviewDesk.Json

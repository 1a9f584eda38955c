import ReviewDesk.Json.Writer
import ReviewDesk.Text.Printable

/-!
Values as plain text, for messages and for fields that hold text. A text stands for itself; inside
other values it is quoted, by preference with single quotes.
-/
namespace ReviewDesk.Json

/-- A character inside quotes. -/
def displayChar (quote c : Char) : String :=
  if c == quote || c == '\\' then "\\" ++ String.singleton c
  else if c == '\n' then "\\n"
  else if c == '\r' then "\\r"
  else if c == '\t' then "\\t"
  else if Text.isPrintable c then String.singleton c
  else if c.toNat < 0x100 then "\\x" ++ hexText 2 c.toNat
  else if c.toNat < 0x10000 then "\\u" ++ hexText 4 c.toNat
  else "\\U" ++ hexText 8 c.toNat

/-- Single quotes, unless the text has some and no double ones. -/
def displayQuoted (s : String) : String :=
  let cs := s.toList
  let quote := if cs.contains '\'' && !cs.contains '"' then '"' else '\''
  String.singleton quote ++ cs.foldl (fun out c => out ++ displayChar quote c) "" ++
    String.singleton quote

mutual

def displayInner : Json → String
  | null => "None"
  | bool b => if b then "True" else "False"
  | int n => toString n
  | real x => Decimal.text x
  | str s => displayQuoted s
  | arr items => "[" ++ ", ".intercalate (displayItems items) ++ "]"
  | obj fields => "\x7b" ++ ", ".intercalate (displayFields fields) ++ "\x7d"

def displayItems : List Json → List String
  | [] => []
  | v :: vs => displayInner v :: displayItems vs

def displayFields : List (String × Json) → List String
  | [] => []
  | (k, v) :: rest => (displayQuoted k ++ ": " ++ displayInner v) :: displayFields rest

end

/-- A value as text. -/
def display : Json → String
  | str s => s
  | v => displayInner v

end ReviewDesk.Json

import ReviewDesk.Text.Identifier

/-!
Lexemes of Python source text. Blank lines, comments and line breaks inside brackets leave none;
a change of indentation leaves one for each block that opens or closes.
-/
namespace ReviewDesk.Grammar

/-- A quoted literal: what its leading letters say, and the text between its quotes. -/
structure Quoted where
  bytes : Bool
  raw : Bool
  formatted : Bool
  body : List Char
  deriving Repr, DecidableEq

inductive Lexeme where
  | keyword (text : String)
  | name (text : String)
  | number ( imaginary : Bool)
  | quoted (literal : Quoted)
  | mark (text : String)
  | lineEnd
  | indent
  | dedent
  deriving Repr, DecidableEq

structure Token where
  lexeme : Lexeme
  line : Nat
  deriving Repr

def keywords : List String :=
  ["False", "None", "True", "and", "as", "assert", "async", "await", "break", "class", "continue",
    "def", "del", "elif", "else", "except", "finally", "for", "from", "global", "if", "import",
    "in", "is", "lambda", "nonlocal", "not", "or", "pass", "raise", "return", "try", "while",
    "with", "yield"]

/-- Operators and brackets, longer ones first. -/
def marks : List String :=
  ["**=", "//=", "<<=", ">>=", "...", "!=", "%=", "&=", "**", "*=", "+=", "-=", "->", "//", "/=",
    ":=", "<<", "<=", "==", ">=", ">>", "@=", "^=", "|=", "%", "&", "(", ")", "*", "+", ",", "-",
    ".", "/", ":", ";", "<", "=", ">", "@", "[", "]", "^", "\x7b", "|", "\x7d", "~"]

/-- Line ends are line feeds, and the last line has one too. -/
def normalizeLines : List Char → List Char
  | [] => ['\n']
  | '\r' :: '\n' :: cs => if cs.isEmpty then ['\n'] else '\n' :: normalizeLines cs
  | '\r' :: cs => if cs.isEmpty then ['\n'] else '\n' :: normalizeLines cs
  | ['\n'] => ['\n']
  | c :: cs => c :: normalizeLines cs

/-- A character that a name may hold as far as the division into lexemes is concerned. -/
def isNamePart (c : Char) : Bool :=
  c.isAlphanum || c == '_' || 128 ≤ c.toNat

/-- The text up to the closing quote and what follows it. A backslash keeps the next character
from closing the text. -/
def takeQuoted (quote : Char) (triple : Bool) : List Char → Option (List Char × List Char)
  | [] => none
  | '\\' :: c :: cs =>
    (takeQuoted quote triple cs).map fun (body, rest) => ('\\' :: c :: body, rest)
  | c :: cs =>
    if c == quote && !triple then some ([], cs)
    else if c == quote && cs.take 2 == [quote, quote] then some ([], cs.drop 2)
    else if c == '\n' && !triple then none
    else (takeQuoted quote triple cs).map fun (body, rest) => (c :: body, rest)

/-- Reads a quoted literal whose opening quote comes first. -/
def quotedBody (quote : Char) (cs : List Char) : Option (List Char × List Char) :=
  if cs.take 2 == [quote, quote] then takeQuoted quote true (cs.drop 2)
  else takeQuoted quote false cs

/-- The letters in front of a quote, each at most once: `u` alone, or `r` with `b` or `f`. -/
def quotedLetters (letters : List Char) : Option (Bool × Bool × Bool) :=
  match letters.map Char.toLower with
  | [] => some (false, false, false)
  | ['u'] => some (false, false, false)
  | ['b'] => some (true, false, false)
  | ['r'] => some (false, true, false)
  | ['f'] => some (false, false, true)
  | ['b', 'r'] => some (true, true, false)
  | ['r', 'b'] => some (true, true, false)
  | ['f', 'r'] => some (false, true, true)
  | ['r', 'f'] => some (false, true, true)
  | _ => none

/-- Whether a word that may directly follow a number begins here. -/
def wordAfterNumber (cs : List Char) : Bool :=
  [['a', 'n', 'd'], ['e', 'l', 's', 'e'], ['f', 'o', 'r'], ['i', 'f'], ['i', 'n'], ['i', 's'],
    ['o', 'r'], ['n', 'o', 't']].any fun w => w.isPrefixOf cs

/-- A number ends before a character that no name holds, or before one of those words. -/
def numberEnds (cs : List Char) : Bool :=
  wordAfterNumber cs || match cs with
    | [] => true
    | c :: _ => !isNamePart c

/-- Digits in groups divided by single underscores; gives their number and the rest. The second
argument says whether a group has begun. -/
def takeDigits (p : Char → Bool) : Bool → List Char → Option (Nat × List Char)
  | began, [] => if began then some (0, []) else none
  | began, c :: cs =>
    if p c then (takeDigits p true cs).map fun (n, rest) => (n + 1, rest)
    else if !began then none
    else if c == '_' then takeDigits p false cs
    else some (0, c :: cs)

/-- Digits after a base mark, which one underscore may precede. -/
def takeBased (p : Char → Bool) (cs : List Char) : Option (Lexeme × List Char) := do
  let digits := match cs with
    | '_' :: ds => ds
    | ds => ds
  let (_, rest) ← takeDigits p false digits
  if numberEnds rest && !(rest.head?.any Char.isDigit) then some (.number false, rest) else none

/-- The most digits that a whole number may be written with in base ten. -/
def maxDigits : Nat := 4300

/-- What may follow the digits and fraction of a number: an exponent, and the mark `j`. -/
def takeExponent (cs : List Char) : Option (Lexeme × List Char) := do
  let (rest, ended) ← match cs with
    | e :: ds =>
      if e == 'e' || e == 'E' then
        match ds with
        | s :: es =>
          if s == '+' || s == '-' then (takeDigits Char.isDigit false es).map fun r => (r.2, false)
          else if s.isDigit then (takeDigits Char.isDigit false ds).map fun r => (r.2, false)
          else if wordAfterNumber cs then some (cs, true)
          else none
        | [] => none
      else some (cs, false)
    | [] => some (cs, false)
  if ended then some (.number false, rest) else
  match rest with
  | c :: after =>
    if c == 'j' || c == 'J' then
      if numberEnds after then some (.number true, after) else none
    else if numberEnds rest then some (.number false, rest) else none
  | [] => some (.number false, [])

/-- What may follow a point: digits, and then an exponent. -/
def takeFraction (cs : List Char) : Option (Lexeme × List Char) :=
  match cs with
  | c :: _ =>
    if c.isDigit then (takeDigits Char.isDigit false cs).bind fun r => takeExponent r.2
    else takeExponent cs
  | [] => takeExponent cs

/-- A number that starts with a digit. A whole number in base ten has no leading zero. -/
def takeNumber (cs : List Char) : Option (Lexeme × List Char) :=
  match cs with
  | '0' :: 'x' :: ds => takeBased (fun c => c.isDigit || ('a' ≤ c.toLower && c.toLower ≤ 'f')) ds
  | '0' :: 'X' :: ds => takeBased (fun c => c.isDigit || ('a' ≤ c.toLower && c.toLower ≤ 'f')) ds
  | '0' :: 'o' :: ds => takeBased (fun c => '0' ≤ c && c ≤ '7') ds
  | '0' :: 'O' :: ds => takeBased (fun c => '0' ≤ c && c ≤ '7') ds
  | '0' :: 'b' :: ds => takeBased (fun c => c == '0' || c == '1') ds
  | '0' :: 'B' :: ds => takeBased (fun c => c == '0' || c == '1') ds
  | _ => do
    let (count, rest) ← takeDigits Char.isDigit false cs
    match rest with
    | '.' :: after => takeFraction after
    | c :: _ =>
      if c == 'e' || c == 'E' || c == 'j' || c == 'J' then takeExponent rest
      else if numberEnds rest && whole cs count then some (.number false, rest)
      else none
    | [] => if whole cs count then some (.number false, rest) else none
where
  /-- The digits in front make a whole number. -/
  whole (cs : List Char) (count : Nat) : Bool :=
    let digits := (cs.takeWhile fun c => c.isDigit || c == '_').filter (· != '_')
    count ≤ maxDigits && (digits.head? != some '0' || digits.all (· == '0'))

/-- The column reached by the blanks that begin a line. Tabs are counted twice, as up to eight
columns and as one, so that lines whose order depends on the width of a tab can be told. -/
structure Column where
  wide : Nat := 0
  narrow : Nat := 0
  deriving Repr, DecidableEq

structure Margin where
  column : Column
  /-- Lines passed over, each ended by a backslash. -/
  skipped : Nat
  rest : List Char

/-- The blanks at the start of a line. If a backslash ends the line among them, the columns before
the first such backslash count, unless there are none. -/
def margin (column : Column) (held : Nat) (skipped : Nat) : List Char → Option Margin
  | ' ' :: cs => margin ⟨column.wide + 1, column.narrow + 1⟩ held skipped cs
  | '\t' :: cs => margin ⟨(column.wide / 8 + 1) * 8, column.narrow + 1⟩ held skipped cs
  | '\x0c' :: cs => margin ⟨0, 0⟩ held skipped cs
  | '\\' :: '\n' :: cs =>
    if cs.isEmpty then none
    else margin column (if held = 0 then column.wide else held) (skipped + 1) cs
  | '\\' :: _ => none
  | cs => some ⟨if held = 0 then column else ⟨held, held⟩, skipped, cs⟩

/-- Deepest indentation and deepest nesting of brackets. -/
def maxIndents : Nat := 100
def maxBrackets : Nat := 200

/-- Closes the blocks that are indented further than `column`; none if no enclosing block
starts there. -/
def closeBlocks (column : Column) : List Column → Option (Nat × List Column)
  | [] => if column.wide = 0 && column.narrow = 0 then some (0, []) else none
  | inner :: outer =>
    if column.wide < inner.wide then (closeBlocks column outer).map fun (n, open_) => (n + 1, open_)
    else if column = inner then some (0, inner :: outer)
    else none

/-- The lexemes that a line's indentation leaves, and the blocks open after it. -/
def indentation (column : Column) (blocks : List Column) : Option (List Lexeme × List Column) :=
  let current := blocks.headD {}
  if current.wide < column.wide then
    if column.narrow ≤ current.narrow || maxIndents ≤ blocks.length + 1 then none
    else some ([.indent], column :: blocks)
  else
    (closeBlocks column blocks).map fun (n, open_) => (.replicate n .dedent, open_)

def closing : Char → Option Char
  | '(' => some ')'
  | '[' => some ']'
  | '\x7b' => some '\x7d'
  | _ => none

/-- Brackets open after a mark, the closing partner of the innermost first. -/
def nextBrackets (mark : String) (brackets : List Char) : Option (List Char) :=
  match mark.toList with
  | [c] =>
    match closing c with
    | some partner => if maxBrackets ≤ brackets.length then none else some (partner :: brackets)
    | none =>
      if c == ')' || c == ']' || c == '\x7d' then
        match brackets with
        | partner :: outer => if partner == c then some outer else none
        | [] => none
      else some brackets
  | _ => some brackets

structure Reading where
  blocks : List Column := []
  brackets : List Char := []
  line : Nat := 1
  tokens : List Token := []

def Reading.push (r : Reading) (lexeme : Lexeme) : Reading :=
  { r with tokens := ⟨lexeme, r.line⟩ :: r.tokens }

/-- A name, keyword or quoted literal that starts with a letter. -/
def takeWord (cs : List Char) : Option (Lexeme × Nat × List Char) :=
  let word := cs.takeWhile isNamePart
  let rest := cs.dropWhile isNamePart
  let plain : Option (Lexeme × Nat × List Char) :=
    if word.all (·.toNat < 128) || Text.isIdentifier word then
      let text := String.ofList word
      some (if keywords.contains text then .keyword text else .name text, 0, rest)
    else none
  match rest with
  | q :: after =>
    if q == '"' || q == '\'' then
      match quotedLetters word with
      | some (bytes, raw, formatted) =>
        (quotedBody q after).map fun (body, rest) =>
          (.quoted ⟨bytes, raw, formatted, body⟩, body.count '\n', rest)
      | none => plain
    else plain
  | [] => plain

/-- The next lexeme of a line, with the number of line feeds in it. -/
def takeLexeme (cs : List Char) : Option (Lexeme × Nat × List Char) :=
  match cs with
  | [] => none
  | c :: rest =>
    if c == '"' || c == '\'' then
      (quotedBody c rest).map fun (body, rest) =>
        (.quoted ⟨false, false, false, body⟩, body.count '\n', rest)
    else if c.isDigit then (takeNumber cs).map fun (l, rest) => (l, 0, rest)
    else if c == '.' && rest.head?.any Char.isDigit then
      (takeFraction rest).map fun (l, rest) => (l, 0, rest)
    else if isNamePart c then takeWord cs
    else (marks.find? fun m => m.toList.isPrefixOf cs).map fun m =>
      (.mark m, 0, cs.drop m.length)

/-- Reads lexemes, newest first. `fresh` says that a line begins. -/
def readTokens : Nat → Bool → Reading → List Char → Option (List Token)
  | 0, _, _, _ => none
  | budget + 1, true, r, cs => do
    let m ← margin {} 0 0 cs
    let r := { r with line := r.line + m.skipped }
    match m.rest with
    | [] => some ((r.blocks.map fun _ => ⟨.dedent, r.line⟩) ++ r.tokens)
    | '\n' :: rest => readTokens budget true { r with line := r.line + 1 } rest
    | '#' :: rest => readTokens budget true r (rest.dropWhile (· != '\n'))
    | rest =>
      let (lexemes, blocks) ← indentation m.column r.blocks
      readTokens budget false { lexemes.foldl .push r with blocks } rest
  | budget + 1, false, r, cs =>
    match cs with
    | [] => none
    | '\n' :: rest =>
      if r.brackets.isEmpty then
        readTokens budget true { r.push .lineEnd with line := r.line + 1 } rest
      else readTokens budget false { r with line := r.line + 1 } rest
    | '\\' :: '\n' :: rest =>
      if rest.isEmpty then none else readTokens budget false { r with line := r.line + 1 } rest
    | '#' :: rest => readTokens budget false r (rest.dropWhile (· != '\n'))
    | c :: rest =>
      if c == ' ' || c == '\t' || c == '\x0c' then readTokens budget false r rest
      else do
        let (lexeme, lines, rest) ← takeLexeme cs
        let brackets ← match lexeme with
          | .mark m => nextBrackets m r.brackets
          | _ => some r.brackets
        readTokens budget false { r.push lexeme with brackets, line := r.line + lines } rest

/-- The tokens of a module's text, or none if it does not divide into lexemes. -/
def tokenize (source : List Char) : Option (List Token) :=
  let cs := normalizeLines source
  (readTokens (2 * cs.length + 2) true {} cs).map List.reverse

end ReviewDesk.Grammar

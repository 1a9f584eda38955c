import ReviewDesk.Grammar.Phrase

/-!
Quoted literals from the inside: backslash escapes, and the replacement fields of formatted
literals.
-/
namespace ReviewDesk.Grammar.Literal

def isHex (c : Char) : Bool :=
  c.isDigit || ('a' ≤ c.toLower && c.toLower ≤ 'f')

def hexValue (cs : List Char) : Nat :=
  cs.foldl (fun n c => 16 * n + (if c.isDigit then c.toNat - 48 else c.toLower.toNat - 87)) 0

/-- `count` hexadecimal digits that give at most `bound`. -/
def hexAt (count bound : Nat) (cs : List Char) : Bool :=
  let digits := cs.take count
  digits.length == count && digits.all isHex && hexValue digits ≤ bound

/-- A character named in braces. -/
def namedAt (cs : List Char) : Bool :=
  match cs with
  | '\x7b' :: rest =>
    let name := rest.takeWhile (· != '\x7d')
    !name.isEmpty && (rest.dropWhile (· != '\x7d')).head? == some '\x7d' &&
      name.all fun c => c.isAlphanum || c == ' ' || c == '-'
  | _ => false

/-- Whether every escape that needs digits or a name has them. -/
def escapesValid (bytes : Bool) : List Char → Bool
  | [] => true
  | '\\' :: c :: cs =>
    (match c with
      | 'x' => hexAt 2 255 cs
      | 'u' => bytes || hexAt 4 0xffff cs
      | 'U' => bytes || hexAt 8 0x10ffff cs
      | 'N' => bytes || namedAt cs
      | _ => true) && escapesValid bytes cs
  | _ :: cs => escapesValid bytes cs

/-- Whether the text of a literal without replacement fields is in order. -/
def valid (bytes raw : Bool) (body : List Char) : Bool :=
  (!bytes || body.all (·.toNat < 128)) && (raw || escapesValid bytes body)

/-- Text between replacement fields, what follows it, and whether a doubled brace ended it. -/
structure Run where
  text : List Char
  rest : List Char
  doubled : Bool

/-- What a brace does to the text before it. Outside of format specifications a doubled brace
stands for itself and a single closing brace is refused. -/
def atBrace (top : Bool) (brace : Char) (rest : List Char) : Option Run :=
  if top && rest.head? == some brace then some ⟨[brace], rest.drop 1, true⟩
  else if top && brace == '\x7d' then none
  else some ⟨[], brace :: rest, false⟩

def isBrace (c : Char) : Bool :=
  c == '\x7b' || c == '\x7d'

def Run.before (front : List Char) (r : Run) : Run :=
  { r with text := front ++ r.text }

/-- The text up to the next replacement field. -/
def takeRun (raw top : Bool) : Nat → List Char → Option Run
  | 0, _ => none
  | _ + 1, [] => some ⟨[], [], false⟩
  | budget + 1, c :: cs =>
    if c == '\\' && !raw then
      match cs with
      | [] => some ⟨[c], [], false⟩
      | 'N' :: '\x7b' :: more =>
        let name := more.takeWhile (· != '\x7d')
        let rest := more.dropWhile (· != '\x7d')
        (takeRun raw top budget (rest.drop 1)).map
          (Run.before ('\\' :: 'N' :: '\x7b' :: (name ++ rest.take 1)))
      | 'N' :: more =>
        (takeRun raw top budget (more.drop 1)).map (Run.before ('\\' :: 'N' :: more.take 1))
      | d :: more =>
        if isBrace d then (atBrace top d more).map (Run.before [c])
        else (takeRun raw top budget more).map (Run.before [c, d])
    else if isBrace c then atBrace top c cs
    else (takeRun raw top budget cs).map (Run.before [c])

/-- Most brackets that may be open inside a replacement field. -/
def maxNesting : Nat := 200

/-- The source text of a replacement field's expression, and what follows it: a conversion, a format
specification, an equals sign or the closing brace. `quote` is the open quote and whether it is
tripled, `brackets` the closing partners of the open brackets. -/
def takeField (quote : Option (Char × Bool)) (brackets : List Char) :
    Nat → List Char → Option (List Char × List Char)
  | 0, _ => none
  | _ + 1, [] => none
  | budget + 1, c :: cs =>
    let keep (taken : List Char) (rest : Option (List Char × List Char)) :=
      rest.map fun (text, after) => (taken ++ text, after)
    if c == '\\' then none else
    match quote with
    | some (q, triple) =>
      if c != q then keep [c] (takeField quote brackets budget cs)
      else if !triple then keep [c] (takeField none brackets budget cs)
      else if cs.take 2 == [q, q] then
        keep [c, c, c] (takeField none brackets budget (cs.drop 2))
      else keep [c] (takeField quote brackets budget cs)
    | none =>
      if c == '\'' || c == '"' then
        if cs.take 2 == [c, c] then
          keep [c, c, c] (takeField (some (c, true)) brackets budget (cs.drop 2))
        else keep [c] (takeField (some (c, false)) brackets budget cs)
      else if c == '(' || c == '[' || c == '\x7b' then
        if maxNesting ≤ brackets.length then none
        else
          let partner := if c == '(' then ')' else if c == '[' then ']' else '\x7d'
          keep [c] (takeField none (partner :: brackets) budget cs)
      else if c == '#' then none
      else if brackets.isEmpty && ['!', ':', '\x7d', '=', '>', '<'].contains c then
        if cs.head? == some '=' && ['!', '=', '<', '>'].contains c then
          keep [c, '='] (takeField none brackets budget (cs.drop 1))
        else if c == '>' || c == '<' then keep [c] (takeField none brackets budget cs)
        else some ([], c :: cs)
      else if c == ')' || c == ']' || c == '\x7d' then
        match brackets with
        | partner :: outer =>
          if partner == c then keep [c] (takeField none outer budget cs) else none
        | [] => none
      else keep [c] (takeField none brackets budget cs)

/-- Blanks that the division into lexemes skips. -/
def isSkipped (c : Char) : Bool :=
  c == ' ' || c == '\t' || c == '\n' || c == '\x0c'

/-- What stands between the expression and the format specification: an equals sign with blanks
after it, and a conversion. -/
def afterExpression (cs : List Char) : Option (List Char) := do
  let cs := match cs with
    | '=' :: rest => rest.dropWhile fun c => isSkipped c || c == '\x0b' || c == '\r'
    | _ => cs
  match cs with
  | '!' :: c :: rest => if c == 's' || c == 'r' || c == 'a' then some rest else none
  | '!' :: [] => none
  | _ => some cs

/-- The expressions in a formatted literal, read by `parse`, and the text from the closing brace
on, if one of a format specification ended the text. Fields may be nested once. -/
def fields (parse : List Char → Attempt Tree) (raw : Bool) :
    Nat → Nat → List Char → Attempt (List Tree × List Char)
  | 0, _, _ => failure
  | budget + 1, depth, cs => do
    let run ← liftOption (takeRun raw (depth == 0) (cs.length + 1) cs)
    unless raw || escapesValid false run.text do failure
    if run.doubled then fields parse raw budget depth run.rest else
    match run.rest with
    | '\x7b' :: rest =>
      if 2 ≤ depth then failure else
      let (text, rest) ← liftOption (takeField none [] (rest.length + 1) rest)
      if text.all isSkipped then failure else
      let tree ← parse ('(' :: text ++ [')'])
      let rest ← liftOption (afterExpression rest)
      let (inner, rest) ← match rest with
        | ':' :: specification =>
          if specification.isEmpty then failure
          else fields parse raw budget (depth + 1) specification
        | _ => pure ([], rest)
      match rest with
      | '\x7d' :: rest =>
        let (more, rest) ← fields parse raw budget depth rest
        return (tree :: inner ++ more, rest)
      | _ => failure
    | rest => return ([], rest)

/-- The expressions in a whole formatted literal. -/
def formatted (parse : List Char → Attempt Tree) (raw : Bool) (body : List Char) :
    Attempt (List Tree) := do
  let (trees, rest) ← fields parse raw (2 * body.length + 2) 0 body
  if rest.isEmpty then return trees else failure

end ReviewDesk.Grammar.Literal

import ReviewDesk.Text.Blank

/-!
Files of variables: a name, an equals sign and a value on each line. A value may stand in quotes, a
mark starts a remark, and a value may use variables that are known already. A line that cannot be
read is passed over.
-/
namespace ReviewDesk

/-- Variables by name. -/
abbrev Environment := List (String × String)

namespace DotEnv

def isLineEnd (c : Char) : Bool := c == '\n' || c == '\r'

/-- Blank, but not the end of a line. -/
def isSpace (c : Char) : Bool := Text.isBlank c && !isLineEnd c

def dropSpaces (cs : List Char) : List Char := cs.dropWhile isSpace

/-- What stands after the word that may come in front of a name. -/
def dropExport (cs : List Char) : List Char :=
  match cs with
  | 'e' :: 'x' :: 'p' :: 'o' :: 'r' :: 't' :: rest =>
    if rest.head?.any isSpace then dropSpaces rest else cs
  | _ => cs

/-- Text up to a closing quote, which a backslash in front of it does not make; none if there is no
such quote. -/
def quoted? (quote : Char) : List Char → Option (List Char × List Char)
  | [] => none
  | [c] => if c == quote then some ([], []) else none
  | c :: d :: rest =>
    if c == quote then some ([], d :: rest)
    else if c == '\\' && d == quote then
      match quoted? quote rest with
      | some (inner, after) => some (c :: d :: inner, after)
      | none => some ([c], rest)
    else (quoted? quote (d :: rest)).map fun (inner, after) => (c :: inner, after)

/-- The characters that a backslash may stand for between double quotes. -/
def escapes : List (Char × Char) :=
  [('\\', '\\'), ('\'', '\''), ('"', '"'), ('a', '\x07'), ('b', '\x08'), ('f', '\x0c'),
    ('n', '\n'), ('r', '\r'), ('t', '\t'), ('v', '\x0b')]

def unescape (known : List (Char × Char)) : List Char → List Char
  | '\\' :: c :: rest =>
    match known.lookup c with
    | some d => d :: unescape known rest
    | none => '\\' :: unescape known (c :: rest)
  | c :: rest => c :: unescape known rest
  | [] => []

/-- A value without quotes: it ends in front of a remark, which has a blank before it. -/
def cutRemark : List Char → List Char
  | [] => []
  | c :: rest =>
    if Text.isBlank c && (rest.dropWhile Text.isBlank).head? == some '#' then []
    else c :: cutRemark rest

def trimEnd (cs : List Char) : List Char := (cs.reverse.dropWhile Text.isBlank).reverse

/-- The name in front of the equals sign: none within for a remark, none for a fault. -/
def readName (cs : List Char) : Option (Option String × List Char) :=
  match cs with
  | '#' :: _ => some (none, cs)
  | '\'' :: rest =>
    match rest.span (· != '\'') with
    | (name@(_ :: _), _ :: after) => some (some (.ofList name), after)
    | _ => none
  | _ =>
    match cs.span fun c => c != '=' && c != '#' && !Text.isBlank c with
    | ([], _) => none
    | (name, after) => some (some (.ofList name), after)

def readValue (cs : List Char) : Option (String × List Char) :=
  match cs with
  | '\'' :: rest => (quoted? '\'' rest).map fun (inner, after) =>
      (.ofList (unescape (escapes.take 2) inner), after)
  | '"' :: rest => (quoted? '"' rest).map fun (inner, after) =>
      (.ofList (unescape escapes inner), after)
  | _ =>
    let (line, after) := cs.span (!isLineEnd ·)
    some (.ofList (trimEnd (cutRemark line)), after)

/-- Past the end of the line, if nothing but a remark is left on it. -/
def finishLine? (cs : List Char) : Option (List Char) :=
  let cs := match dropSpaces cs with
    | '#' :: rest => rest.dropWhile (!isLineEnd ·)
    | _ => cs
  match dropSpaces cs with
  | [] => some []
  | '\r' :: '\n' :: rest => some rest
  | c :: rest => if isLineEnd c then some rest else none

/-- Past the end of a line that could not be read. -/
def skipLine (cs : List Char) : List Char :=
  match cs.dropWhile (!isLineEnd ·) with
  | [] => []
  | _ :: rest => rest

/-- One variable, if the line sets one. Where reading stops, the rest of the line is passed over. -/
def readBinding (cs : List Char) : Option (String × String) × List Char :=
  let cs := dropExport cs
  match readName cs with
  | none => (none, skipLine cs)
  | some (name, after) =>
    let after := dropSpaces after
    match after with
    | '=' :: rest =>
      let rest := dropSpaces rest
      match readValue rest with
      | none => (none, skipLine rest)
      | some (value, after) =>
        match finishLine? after with
        | some rest => (name.map (·, value), rest)
        | none => (none, skipLine after)
    | _ =>
      match finishLine? after with
      | some rest => (none, rest)
      | none => (none, skipLine after)

/-- The variables of a text in their order; the budget is at least the number of its lines. -/
def readBindings : Nat → List Char → List (String × String)
  | 0, _ => []
  | budget + 1, cs =>
    match cs.dropWhile Text.isBlank with
    | [] => []
    | cs =>
      match readBinding cs with
      | (some binding, rest) => binding :: readBindings budget rest
      | (none, rest) => readBindings budget rest

/-- A name between a dollar sign with a brace and a closing brace, perhaps with a fallback behind a
colon and a dash. -/
def reference? (cs : List Char) : Option (String × String × List Char) :=
  match cs with
  | '$' :: '\x7b' :: rest =>
    let (name, after) := rest.span fun c => c != '\x7d' && c != ':'
    match after with
    | '\x7d' :: after => some (.ofList name, "", after)
    | ':' :: '-' :: more =>
      match more.span (· != '\x7d') with
      | (fallback, _ :: after) => some (.ofList name, .ofList fallback, after)
      | _ => none
    | _ => none
  | _ => none

/-- Puts the values of variables in their places. -/
def expand (known : Environment) : Nat → List Char → List Char
  | 0, cs => cs
  | _, [] => []
  | budget + 1, c :: cs =>
    match reference? (c :: cs) with
    | some (name, fallback, after) =>
      ((known.lookup name).getD fallback).toList ++ expand known budget after
    | none => c :: expand known budget cs

/-- Sets a variable, in its place if it is there. -/
def set (name value : String) : Environment → Environment
  | [] => [(name, value)]
  | (n, v) :: rest => if n == name then (n, value) :: rest else (n, v) :: set name value rest

/-- The variables of a text. What is in the environment already counts more than what stands
further up in the text. -/
def parse (environment : Environment) (text : String) : Environment :=
  let cs := text.toList
  (readBindings cs.length cs).foldl (fun known (name, value) =>
    set name (.ofList (expand (environment ++ known) value.length value.toList)) known) []

end DotEnv

/-- The environment with the variables of a text that it does not have yet. -/
def Environment.withFile (environment : Environment) (text : String) : Environment :=
  environment ++ (DotEnv.parse environment text).filter fun (name, _) =>
    (environment.lookup name).isNone

/-- A variable that is set to something. -/
def Environment.get? (environment : Environment) (name : String) : Option String :=
  (environment.lookup name).filter (!·.isEmpty)

end ReviewDesk

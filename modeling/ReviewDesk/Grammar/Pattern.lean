import ReviewDesk.Grammar.Expression

/-!
Patterns of `case` blocks.
-/
namespace ReviewDesk.Grammar.Pattern

open Phrase

/-- A name to bind, which is not the wildcard and begins neither a dotted name, a call nor a
keyword argument. -/
def capture : Phrase Tree := do
  let l ← line
  if (← name) = "_" then failure
  if (← atMark ".") || (← atMark "(") || (← atMark "=") then failure
  return .plain l []

def wildcard : Phrase Tree := do
  let l ← line
  expect (.name "_")
  return .plain l []

/-- A number that is imaginary or real as asked. -/
def number (isImaginary : Bool) : Phrase Unit := expect (.number isImaginary)

def anyNumber : Phrase Unit := number false <|> number true

/-- A number with an optional minus sign, or a complex number written as a sum. -/
def signedNumber : Phrase Unit := do
  let _ ← mark? "-"
  let complex : Phrase Unit := do
    number false
    Expression.operator ["+", "-"]
    number true
  complex <|> do
    anyNumber
    if (← atMark "+") || (← atMark "-") then failure

/-- Numbers, texts and the three constants. -/
def literal (read : Expression.Reader) : Phrase Tree := do
  let l ← line
  let constant : Phrase Tree := do
    keyword "None" <|> keyword "True" <|> keyword "False"
    return .plain l []
  (do signedNumber; return .plain l []) <|> Expression.literals read <|> constant

/-- A dotted name with the given number of dots at least. -/
def dotted (least : Nat) : Phrase Tree := do
  let l ← line
  let _ ← name
  let rest ← many do mark "."; name
  if rest.length < least then failure
  return .plain l []

def value : Phrase Tree := do
  let t ← dotted 1
  if (← atMark "(") || (← atMark "=") then failure
  return t

abbrev Reader := Phrase Tree

/-- An element of a sequence: `*` with a name, or any pattern. The flag tells the first. -/
def elementWithFlag (read : Reader) : Phrase (Tree × Bool) := do
  if ← mark? "*" then return (← capture <|> wildcard, true)
  return (← read, false)

def element (read : Reader) : Phrase Tree :=
  return (← elementWithFlag read).1

/-- Elements with commas, which make a sequence, or one pattern without. -/
def sequenceOrSingle (read : Reader) : Phrase Tree := do
  let l ← line
  let (all, commas) ← commaList (elementWithFlag read)
  match all, commas with
  | [(t, false)], false => return t
  | _, false => failure
  | all, true => return .plain l (all.map (·.1))

def parenthesized (read : Reader) : Phrase Tree := do
  let l ← line
  mark "("
  if ← mark? ")" then return .plain l []
  let inner ← sequenceOrSingle read
  mark ")"
  return inner

def bracketed (read : Reader) : Phrase Tree := do
  let l ← line
  mark "["
  if ← mark? "]" then return .plain l []
  let (all, _) ← commaList (element read)
  mark "]"
  return .plain l all

/-- An entry of a mapping; the flag tells the one that collects the rest, which comes last. -/
def entry (expressions : Expression.Reader) (read : Reader) : Phrase (List Tree × Bool) := do
  if ← mark? "**" then return ([← capture], true)
  let key ← literal expressions <|> dotted 1
  mark ":"
  return ([key, ← read], false)

def mapping (expressions : Expression.Reader) (read : Reader) : Phrase Tree := do
  let l ← line
  mark "\x7b"
  if ← mark? "\x7d" then return .plain l []
  let (entries, _) ← commaList (entry expressions read)
  if entries.dropLast.any (·.2) then failure
  mark "\x7d"
  return .plain l (entries.flatMap (·.1))

/-- An argument of a class pattern; the flag tells those given by name, which come last. -/
def argument (read : Reader) : Phrase (Tree × Bool) := do
  match ← get with
  | ⟨.name _, _⟩ :: ⟨.mark "=", _⟩ :: ts =>
    set ts
    return (← read, true)
  | _ => return (← read, false)

def classPattern (read : Reader) : Phrase Tree := do
  let l ← line
  let _ ← dotted 0
  mark "("
  if ← mark? ")" then return .plain l []
  let (all, _) ← commaList (argument read)
  if (all.dropWhile (!·.2)).any (!·.2) then failure
  mark ")"
  return .plain l (all.map (·.1))

def closed (expressions : Expression.Reader) (read : Reader) : Phrase Tree :=
  literal expressions <|> capture <|> wildcard <|> value <|> parenthesized read <|>
    bracketed read <|> mapping expressions read <|> classPattern read

/-- Alternatives, and a name for what they match. -/
def pattern (expressions : Expression.Reader) (read : Reader) : Phrase Tree := do
  let t ← Expression.joined .other (mark "|") (closed expressions read)
  if ← keyword? "as" then return .plain t.line [t, ← capture]
  return t

/-- Reads patterns nested at most as deep as the stack allows. -/
def reader (expressions : Expression.Reader) : (stack : Nat) → Reader
  | 0 => overflow
  | stack + 1 => pattern expressions (reader expressions stack)

/-- What stands after `case`. -/
def whole (expressions : Expression.Reader) (stack : Nat) : Phrase Tree :=
  sequenceOrSingle (reader expressions stack)

end ReviewDesk.Grammar.Pattern

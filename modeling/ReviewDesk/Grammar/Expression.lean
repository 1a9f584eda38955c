import ReviewDesk.Grammar.Literal
import ReviewDesk.Grammar.Parameter

/-!
Expressions. Each rule takes a reader for the phrases inside it; the reader itself ties the rules
together and takes one place on its stack at each level.
-/
namespace ReviewDesk.Grammar.Expression

open Phrase

/-- The kinds of expression that rules refer back to, loosest last. -/
inductive Rank where
  | factor
  | bitwiseOr
  | inversion
  | disjunction
  | expression

abbrev Reader := Rank → Phrase Tree

/-- `name := value`, or any expression. The flag tells the first. -/
def namedWithFlag (read : Reader) : Phrase (Tree × Bool) := do
  match ← get with
  | ⟨.name _, l⟩ :: ⟨.mark ":=", _⟩ :: ts =>
    set ts
    return (.plain l [.node .name l [], ← read .expression], true)
  | _ => return (← read .expression, false)

def named (read : Reader) : Phrase Tree :=
  return (← namedWithFlag read).1

def starred (read : Reader) (rank : Rank) : Phrase Tree := do
  let l ← line
  mark "*"
  return .node .starred l [← read rank]

def starNamed (read : Reader) : Phrase Tree := do
  if ← atMark "*" then starred read .bitwiseOr else named read

/-- An element of an unbracketed list of expressions. -/
def starExpression (read : Reader) : Phrase Tree := do
  if ← atMark "*" then starred read .bitwiseOr else read .expression

/-- Expressions with commas, which make a tuple, or one without. -/
def starExpressions (read : Reader) : Phrase Tree := do
  let l ← line
  let (all, commas) ← commaList (starExpression read)
  match all, commas with
  | [e], false => return e
  | es, _ => return .node .tuple l es

def yieldExpression (read : Reader) : Phrase Tree := do
  let l ← line
  keyword "yield"
  if ← keyword? "from" then return .plain l [← read .expression]
  return .plain l (← option (starExpressions read)).toList

def starTarget (read : Reader) : Phrase Tree := do
  let t ← if ← atMark "*" then starred read .bitwiseOr else read .bitwiseOr
  unless t.isTarget do failure
  return t

/-- What a `for` assigns to. -/
def targets (read : Reader) : Phrase Tree := do
  let l ← line
  let (all, commas) ← commaList (starTarget read)
  match all, commas with
  | [t], false => return t
  | ts, _ => return .node .tuple l ts

def clause (read : Reader) : Phrase Tree := do
  let l ← line
  let _ ← keyword? "async"
  keyword "for"
  let target ← targets read
  keyword "in"
  let source ← read .disjunction
  let conditions ← many do keyword "if"; read .disjunction
  return .node (.clause conditions.length) l (target :: source :: conditions)

def atClause : Phrase Bool :=
  return (← atKeyword "for") || (← atKeyword "async")

def clauses (read : Reader) : Phrase (List Tree) :=
  many1 (clause read)

def isStarred (t : Tree) : Bool :=
  t.form matches .starred

/-- What follows an opening parenthesis: a tuple, a generator, or one expression. -/
def parenthesized (read : Reader) (l : Nat) : Phrase Tree := do
  if ← mark? ")" then return .node .tuple l []
  if ← atKeyword "yield" then
    let e ← yieldExpression read
    mark ")"
    return e
  let first ← starNamed read
  if ← atClause then
    if isStarred first then failure
    let cs ← clauses read
    mark ")"
    return .plain l (first :: cs)
  if ← mark? ")" then
    if isStarred first then failure
    return first
  mark ","
  if ← mark? ")" then return .node .tuple l [first]
  let (rest, _) ← commaList (starNamed read)
  mark ")"
  return .node .tuple l (first :: rest)

/-- What follows an opening square bracket. -/
def bracketed (read : Reader) (l : Nat) : Phrase Tree := do
  if ← mark? "]" then return .node .list l []
  let first ← starNamed read
  if ← atClause then
    if isStarred first then failure
    let cs ← clauses read
    mark "]"
    return .plain l (first :: cs)
  let rest ← many do mark ","; starNamed read
  let _ ← mark? ","
  mark "]"
  return .node .list l (first :: rest)

def pair (read : Reader) : Phrase (List Tree) := do
  if ← mark? "**" then return [← read .bitwiseOr]
  let key ← read .expression
  mark ":"
  return [key, ← read .expression]

/-- What follows an opening brace: a dictionary or a set. -/
def braced (read : Reader) (l : Nat) : Phrase Tree := do
  if ← mark? "\x7d" then return .plain l []
  if ← atMark "**" then
    let (pairs, _) ← commaList (pair read)
    mark "\x7d"
    return .plain l pairs.flatten
  let (first, assigns) ← if ← atMark "*" then pure (← starred read .bitwiseOr, true)
    else namedWithFlag read
  if ← mark? ":" then
    if assigns then failure
    let value ← read .expression
    if ← atClause then
      let cs ← clauses read
      mark "\x7d"
      return .plain l (first :: value :: cs)
    let pairs ← many do mark ","; pair read
    let _ ← mark? ","
    mark "\x7d"
    return .plain l (first :: value :: pairs.flatten)
  if ← atClause then
    if isStarred first then failure
    let cs ← clauses read
    mark "\x7d"
    return .plain l (first :: cs)
  let rest ← many do mark ","; starNamed read
  let _ ← mark? ","
  mark "\x7d"
  return .plain l (first :: rest)

def literal : Phrase Quoted := do
  match ← get with
  | ⟨.quoted q, _⟩ :: ts => set ts; return q
  | _ => failure

/-- The expression in a replacement field. -/
def field (read : Reader) (text : List Char) : Attempt Tree := do
  let (tree, _) ← (read .expression).run (← liftOption (tokenize text))
  return tree

/-- Literals side by side, all of bytes or all of text. -/
def literals (read : Reader) : Phrase Tree := do
  let l ← line
  let all ← many1 literal
  unless all.all (·.bytes) || all.all (!·.bytes) do failure
  let inner ← all.mapM fun q =>
    if q.formatted then liftM (Literal.formatted (field read) q.raw q.body)
    else if Literal.valid q.bytes q.raw q.body then pure []
    else failure
  return .plain l inner.flatten

def atom (read : Reader) : Phrase Tree := do
  match ← get with
  | ⟨lexeme, l⟩ :: ts =>
    match lexeme with
    | .name _ => set ts; return .node .name l []
    | .number _ => set ts; return .plain l []
    | .quoted _ => literals read
    | .keyword k =>
      if k = "True" || k = "False" || k = "None" then set ts; return .plain l []
      else failure
    | .mark "..." => set ts; return .plain l []
    | .mark "(" => set ts; parenthesized read l
    | .mark "[" => set ts; bracketed read l
    | .mark "\x7b" => set ts; braced read l
    | _ => failure
  | [] => failure

/-- An argument of a call. -/
inductive Argument where
  | positional
  | keyword
  | spread
  | doubleSpread
  deriving DecidableEq

namespace Argument

/-- Positional arguments come before named ones, and a spread before any double spread. -/
def orderlyFrom (seenNamed seenDouble : Bool) : List Argument → Bool
  | [] => true
  | positional :: as => !seenNamed && orderlyFrom false false as
  | spread :: as => !seenDouble && orderlyFrom seenNamed seenDouble as
  | keyword :: as => orderlyFrom true seenDouble as
  | doubleSpread :: as => orderlyFrom true true as

end Argument

def argument (read : Reader) : Phrase (Argument × Tree) := do
  if ← mark? "**" then return (.doubleSpread, ← read .expression)
  if ← atMark "*" then return (.spread, ← starred read .expression)
  match ← get with
  | ⟨.name _, _⟩ :: ⟨.mark "=", _⟩ :: ts =>
    set ts
    return (.keyword, ← read .expression)
  | _ => return (.positional, ← named read)

/-- Arguments up to, and with, the closing parenthesis. A call's only argument may be a generator
without parentheses of its own. -/
def arguments (read : Reader) (generator : Bool) : Phrase (List Tree) := do
  if ← mark? ")" then return []
  let first ← argument read
  if generator && first.1 = .positional && (← atClause) then
    let cs ← clauses read
    mark ")"
    return first.2 :: cs
  let rest ← many do mark ","; argument read
  let _ ← mark? ","
  unless Argument.orderlyFrom false false ((first :: rest).map (·.1)) do failure
  mark ")"
  return (first :: rest).map (·.2)

/-- A part of a slice, left out before a mark that ends it. -/
def bound (read : Reader) : Phrase (List Tree) := do
  if (← atMark ":") || (← atMark ",") || (← atMark "]") then return []
  return [← read .expression]

def sliceTail (read : Reader) : Phrase (List Tree) := do
  mark ":"
  let upper ← bound read
  if ← mark? ":" then return upper ++ (← bound read)
  return upper

def slice (read : Reader) : Phrase Tree := do
  let l ← line
  if ← atMark "*" then starred read .expression
  else if ← atMark ":" then return .plain l (← sliceTail read)
  else
    let (first, assigns) ← namedWithFlag read
    if !assigns && (← atMark ":") then return .plain l (first :: (← sliceTail read))
    return first

/-- What follows a primary expression and becomes part of it. -/
def suffix (read : Reader) : Phrase (Tree → Tree) := do
  let l ← line
  if ← mark? "." then
    let _ ← Phrase.name
    return fun base => .node .attribute l [base]
  if ← mark? "(" then
    let args ← arguments read true
    return fun base => .plain l (base :: args)
  mark "["
  let (slices, _) ← commaList (slice read)
  mark "]"
  return fun base => .node .subscript l (base :: slices)

def primary (read : Reader) : Phrase Tree := do
  let base ← atom read
  return (← many (suffix read)).foldl (fun t s => s t) base

def power (read : Reader) : Phrase Tree := do
  let l ← line
  let base ← if ← keyword? "await" then pure (.plain l [← primary read]) else primary read
  if ← mark? "**" then return .plain l [base, ← read .factor]
  return base

/-- Operands joined by any of the operators. -/
def joined (form : Form) (operator : Phrase Unit) (operand : Phrase Tree) : Phrase Tree := do
  let l ← line
  let first ← operand
  match ← many do operator; operand with
  | [] => return first
  | rest => return .node form l (first :: rest)

def operator (texts : List String) : Phrase Unit := do
  match ← get with
  | ⟨.mark m, _⟩ :: ts => if texts.contains m then set ts else failure
  | _ => failure

def factor (read : Reader) : Phrase Tree := do
  let l ← line
  match ← option (operator ["+", "-", "~"]) with
  | some () => return .plain l [← read .factor]
  | none => power read

def bitwiseOr (read : Reader) : Phrase Tree :=
  joined .other (operator ["|"]) <|
  joined .other (operator ["^"]) <|
  joined .other (operator ["&"]) <|
  joined .other (operator ["<<", ">>"]) <|
  joined .other (operator ["+", "-"]) <|
  joined .other (operator ["*", "/", "//", "%", "@"]) <|
  factor read

def comparisonOperator : Phrase Unit := do
  if ← keyword? "in" then return
  if ← keyword? "not" then keyword "in"; return
  if ← keyword? "is" then
    let _ ← keyword? "not"
    return
  operator ["==", "!=", "<=", "<", ">=", ">"]

def comparison (read : Reader) : Phrase Tree :=
  joined .other comparisonOperator (bitwiseOr read)

def inversion (read : Reader) : Phrase Tree := do
  let l ← line
  if ← keyword? "not" then return .plain l [← read .inversion]
  comparison read

def disjunction (read : Reader) : Phrase Tree :=
  joined .boolean (keyword "or") <| joined .boolean (keyword "and") <| inversion read

def lambda (read : Reader) : Phrase Tree := do
  let l ← line
  keyword "lambda"
  let (_, defaults) ← Parameter.parseList (read .expression) failure false ":"
  mark ":"
  return .node .lambda l (defaults ++ [← read .expression])

def expression (read : Reader) : Phrase Tree := do
  if ← atKeyword "lambda" then lambda read else
  let l ← line
  let value ← disjunction read
  if ← keyword? "if" then
    let condition ← disjunction read
    keyword "else"
    return .node .ifExpression l [condition, value, ← read .expression]
  return value

/-- Reads expressions nested at most as deep as the stack allows. -/
def reader : (stack : Nat) → Reader
  | 0, _ => overflow
  | stack + 1, rank =>
    match rank with
    | .factor => factor (reader stack)
    | .bitwiseOr => bitwiseOr (reader stack)
    | .inversion => inversion (reader stack)
    | .disjunction => disjunction (reader stack)
    | .expression => expression (reader stack)

end ReviewDesk.Grammar.Expression

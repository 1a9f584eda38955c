import ReviewDesk.Grammar.Pattern

/-!
Statements and whole modules. Main definition: `parseModule`.
-/
namespace ReviewDesk.Grammar

/-- How deep phrases may be nested: the places on the stack of the reader. -/
def stackLimit : Nat := 6000

namespace Statement

open Phrase

/-- What the rules of statements need: the source's expressions and patterns, and the blocks inside
a statement. -/
structure Readers where
  expressions : Expression.Reader
  patterns : Phrase Tree
  block : Phrase (List Tree)

variable (r : Readers)

def expression : Phrase Tree := r.expressions .expression

def named : Phrase Tree := Expression.named r.expressions

def starExpressions : Phrase Tree := Expression.starExpressions r.expressions

/-- The right-hand side of an assignment. -/
def assigned : Phrase Tree := do
  if ← atKeyword "yield" then Expression.yieldExpression r.expressions else starExpressions r

def augmentations : List String :=
  ["+=", "-=", "*=", "@=", "/=", "%=", "&=", "|=", "^=", "<<=", ">>=", "**=", "//="]

/-- The values after a chain of equals signs; all but the last are targets. -/
def chain (first : Tree) : Phrase (List Tree) := do
  let values ← many do mark "="; assigned r
  unless (first :: values).dropLast.all (·.isTarget) do failure
  return values

/-- An expression, or an assignment to one. -/
def expressionOrAssignment : Phrase Tree := do
  let l ← line
  let first ← assigned r
  if ← mark? ":" then
    unless first.isSingleTarget do failure
    let annotation ← expression r
    let value ← if ← mark? "=" then pure [← assigned r] else pure []
    return .plain l (first :: annotation :: value)
  match ← option (Expression.operator augmentations) with
  | some () =>
    unless first.isSingleTarget do failure
    return .plain l [first, ← assigned r]
  | none => return .plain l (first :: (← chain r first))

def delete : Phrase Tree := do
  let l ← line
  keyword "del"
  let (all, _) ← commaList (expression r)
  unless all.all (·.isDeletable) do failure
  unless (← atMark ";") || (← peek?) = some .lineEnd do failure
  return .plain l all

def raise : Phrase Tree := do
  let l ← line
  keyword "raise"
  match ← option (expression r) with
  | none => return .plain l []
  | some e =>
    if ← keyword? "from" then return .plain l [e, ← expression r]
    return .plain l [e]

def assertion : Phrase Tree := do
  let l ← line
  keyword "assert"
  let condition ← expression r
  if ← mark? "," then return .plain l [condition, ← expression r]
  return .plain l [condition]

def otherName : Phrase Unit := do
  if ← keyword? "as" then let _ ← name

def dottedName : Phrase Unit := do
  let _ ← name
  let _ ← many do mark "."; name

def importModules : Phrase Tree := do
  let l ← line
  keyword "import"
  let _ ← sepByComma do dottedName; otherName
  return .plain l []

def importedName : Phrase Unit := do
  let _ ← name
  otherName

def importNames : Phrase Tree := do
  let l ← line
  keyword "from"
  let dots ← many (Expression.operator [".", "..."])
  match ← option dottedName with
  | some () => pure ()
  | none => if dots.isEmpty then failure
  keyword "import"
  if ← mark? "*" then return .plain l []
  if ← mark? "(" then
    let _ ← commaList importedName
    mark ")"
    return .plain l []
  let _ ← sepByComma importedName
  return .plain l []

def names (word : String) : Phrase Tree := do
  let l ← line
  keyword word
  let _ ← sepByComma name
  return .plain l []

/-- A statement that is part of a line. -/
def simple : Phrase Tree := do
  let l ← line
  match ← peek? with
  | some (.keyword k) =>
    match k with
    | "pass" => keyword k; return .node .pass l []
    | "break" => keyword k; return .plain l []
    | "continue" => keyword k; return .plain l []
    | "return" => keyword k; return .plain l (← option (starExpressions r)).toList
    | "raise" => raise r
    | "global" => names k
    | "nonlocal" => names k
    | "del" => delete r
    | "assert" => assertion r
    | "import" => importModules
    | "from" => importNames
    | _ => expressionOrAssignment r
  | _ => expressionOrAssignment r

/-- The statements of one line. -/
def simples : Phrase (List Tree) := do
  let first ← simple r
  let rest ← many do mark ";"; simple r
  let _ ← mark? ";"
  expect .lineEnd
  return first :: rest

/-- A colon and the block after it. -/
def body : Phrase (List Tree) := do
  mark ":"
  r.block

def elseBody : Phrase (List Tree) := do
  if ← keyword? "else" then body r else return []

/-- The rest of a conditional statement: further conditions nest in it, as many as the stack
allows. -/
def conditional : (stack : Nat) → Phrase Tree
  | 0 => overflow
  | stack + 1 => do
    let l ← line
    let condition ← named r
    let then_ ← body r
    if ← atKeyword "elif" then
      let line' ← line
      keyword "elif"
      let inner ← conditional stack
      let inner := Tree.node inner.form line' inner.parts
      return .node .ifStatement l (condition :: then_ ++ [inner])
    return .node .ifStatement l (condition :: then_ ++ (← elseBody r))

def ifStatement : Phrase Tree := do
  let l ← line
  keyword "if"
  let t ← conditional r stackLimit
  return .node t.form l t.parts

def whileLoop : Phrase Tree := do
  let l ← line
  keyword "while"
  let condition ← named r
  let inner ← body r
  return .node .whileLoop l (condition :: inner ++ (← elseBody r))

def forLoop : Phrase Tree := do
  let l ← line
  keyword "for"
  let target ← Expression.targets r.expressions
  keyword "in"
  let source ← starExpressions r
  let inner ← body r
  return .node .forLoop l (target :: source :: inner ++ (← elseBody r))

def withItem : Phrase (List Tree) := do
  let e ← expression r
  if ← keyword? "as" then
    let t ← Expression.starTarget r.expressions
    return [e, t]
  return [e]

/-- The items of a `with`, in parentheses of their own if that can be. -/
def withItems : Phrase (List Tree) :=
  let enclosed : Phrase (List Tree) := do
    mark "("
    let (items, _) ← commaList (withItem r)
    mark ")"
    ahead (mark ":")
    return items.flatten
  enclosed <|> do
    let items ← sepByComma (withItem r)
    ahead (mark ":")
    return items.flatten

def withStatement : Phrase Tree := do
  let l ← line
  keyword "with"
  let items ← withItems r
  return .plain l (items ++ (← body r))

def handler (grouped : Bool) : Phrase Tree := do
  let l ← line
  keyword "except"
  if grouped then mark "*"
  else if ← atMark ":" then return .node (.handler true) l (← body r)
  let caught ← expression r
  otherName
  return .node (.handler false) l (caught :: (← body r))

def finallyBody : Phrase (List Tree) := do
  keyword "finally"
  body r

def tryStatement : Phrase Tree := do
  let l ← line
  keyword "try"
  let inner ← body r
  let handlers ← many1 (handler r false) <|> many (handler r true)
  if handlers.isEmpty then return .plain l (inner ++ (← finallyBody r))
  let otherwise ← elseBody r
  let last ← if ← atKeyword "finally" then finallyBody r else pure []
  return .plain l (inner ++ handlers ++ otherwise ++ last)

def function (decorators : List Tree) : Phrase Tree := do
  keyword "def"
  let n ← name
  mark "("
  let (ps, parts) ← Parameter.parseList (expression r)
    (Expression.starExpression r.expressions) true ")"
  mark ")"
  let result ← if ← mark? "->" then pure [← expression r] else pure []
  let inner ← body r
  return .node (.function n (Parameter.names ps)) 0 (parts ++ inner ++ decorators ++ result)

def classDef (decorators : List Tree) : Phrase Tree := do
  keyword "class"
  let n ← name
  let bases ← if ← mark? "(" then Expression.arguments r.expressions false else pure []
  let inner ← body r
  return .node (.classDef n) 0 (bases ++ inner ++ decorators)

/-- A definition starts on the line of its own first word, below its decorators. -/
def definition (decorators : List Tree) : Phrase Tree := do
  let l ← line
  let t ← if ← keyword? "async" then function r decorators
    else if ← atKeyword "class" then classDef r decorators
    else function r decorators
  return .node t.form l t.parts

def decorated : Phrase Tree := do
  let decorators ← many1 do
    mark "@"
    let e ← named r
    expect .lineEnd
    return e
  definition r decorators

/-- A statement after `async` that is no definition. -/
def asynchronous : Phrase Tree := do
  let l ← line
  keyword "async"
  let t ← if ← atKeyword "for" then forLoop r else withStatement r
  return .node t.form l t.parts

def matchCase : Phrase Tree := do
  let l ← line
  expect (.name "case")
  let p ← r.patterns
  let guard ← if ← keyword? "if" then pure [← named r] else pure []
  return .node .matchCase l (p :: guard ++ (← body r))

def subject : Phrase (List Tree) := do
  let (all, commas) ← commaList (Expression.starNamed r.expressions)
  if !commas && all.any Expression.isStarred then failure
  return all

def matchStatement : Phrase Tree := do
  let l ← line
  expect (.name "match")
  let s ← subject r
  mark ":"
  expect .lineEnd
  expect .indent
  let cases ← many1 (matchCase r)
  expect .dedent
  return .plain l (s ++ cases)

/-- A statement with blocks of its own, or a line of simple statements. -/
def statement : Phrase (List Tree) := do
  match ← peek? with
  | some (.keyword k) =>
    match k with
    | "def" => return [← definition r []]
    | "class" => return [← definition r []]
    | "async" => return [← definition r [] <|> asynchronous r]
    | "if" => return [← ifStatement r]
    | "while" => return [← whileLoop r]
    | "for" => return [← forLoop r]
    | "with" => return [← withStatement r]
    | "try" => return [← tryStatement r]
    | _ => simples r
  | some (.mark "@") => return [← decorated r]
  | some (.name "match") => (do return [← matchStatement r]) <|> simples r
  | _ => simples r

/-- Reads blocks nested at most as deep as the stack allows. -/
def block (expressions : Expression.Reader) (patterns : Phrase Tree) :
    (stack : Nat) → Phrase (List Tree)
  | 0 => overflow
  | stack + 1 => do
    let readers : Readers := ⟨expressions, patterns, block expressions patterns stack⟩
    if ← accept .lineEnd then
      expect .indent
      let all ← many1 (statement readers)
      expect .dedent
      return all.flatten
    simples readers

end Statement

/-- Why no tree of a module can be given. -/
inductive SyntaxFault where
  | nullInPath
  | nullCharacter
  | malformed
  | tooDeep
  deriving Repr, DecidableEq

def SyntaxFault.message : SyntaxFault → String
  | nullInPath => "embedded null character"
  | nullCharacter => "source code string cannot contain null bytes"
  | malformed => "invalid syntax"
  | tooDeep => ""

/-- The statements of a module's text, and the tokens left over. -/
def statements (cs : List Char) : Attempt (List (List Tree) × List Token) := do
  let expressions := Expression.reader stackLimit
  let patterns := Pattern.whole expressions stackLimit
  let readers : Statement.Readers :=
    ⟨expressions, patterns, Statement.block expressions patterns stackLimit⟩
  (Phrase.many (Statement.statement readers)).run (← liftOption (tokenize cs))

/-- The tree of a module. -/
def parseModule (source : String) : Except SyntaxFault Tree := do
  let cs := source.toList
  if cs.contains '\x00' then throw .nullCharacter
  match (statements cs).run with
  | .error .overflow => throw .tooDeep
  | .ok (some (all, [])) => return .node .module 1 all.flatten
  | .ok _ => throw .malformed

end ReviewDesk.Grammar

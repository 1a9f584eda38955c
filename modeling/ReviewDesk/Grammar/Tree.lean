/-!
Syntax trees as the checks see them: every node has a form, the line it starts on and its parts in
order. Forms that no check and no rule of the grammar tells apart share `other`.
-/
namespace ReviewDesk.Grammar

inductive Form where
  | module
  /-- A definition with `def`, with the names of its parameters in order, the collecting ones
  (`*` and `**`) left out. -/
  | function (name : String) (parameters : List String)
  | classDef (name : String)
  | lambda
  | ifStatement
  | ifExpression
  | forLoop
  | whileLoop
  /-- An exception handler. Its parts are the exception it names, unless it is bare, and its
  body. -/
  | handler (bare : Bool)
  /-- Operands joined by one kind of boolean operator. -/
  | boolean
  /-- One `for` of a comprehension, with its number of conditions. -/
  | clause (conditions : Nat)
  | matchCase
  | pass
  | name
  | attribute
  | subscript
  | tuple
  | list
  | starred
  | other
  deriving Repr, DecidableEq

inductive Tree where
  | node (form : Form) (line : Nat) (parts : List Tree)
  deriving Repr

namespace Tree

def form : Tree → Form
  | node f _ _ => f

def line : Tree → Nat
  | node _ l _ => l

def parts : Tree → List Tree
  | node _ _ ps => ps

/-- A node that nothing tells apart from others. -/
def plain (line : Nat) (parts : List Tree) : Tree :=
  node .other line parts

/-- What a single name, attribute or item is: the targets of annotated and augmented
assignments. -/
def isSingleTarget (t : Tree) : Bool :=
  t.form matches .name | .attribute | .subscript

mutual

/-- Whether an expression may be assigned to. -/
def isTarget : Tree → Bool
  | node .name _ _ => true
  | node .attribute _ _ => true
  | node .subscript _ _ => true
  | node .tuple _ ps => areTargets ps
  | node .list _ ps => areTargets ps
  | node .starred _ ps => areTargets ps
  | _ => false

def areTargets : List Tree → Bool
  | [] => true
  | t :: ts => isTarget t && areTargets ts

end

mutual

/-- Whether an expression may be deleted. -/
def isDeletable : Tree → Bool
  | node .name _ _ => true
  | node .attribute _ _ => true
  | node .subscript _ _ => true
  | node .tuple _ ps => areDeletable ps
  | node .list _ ps => areDeletable ps
  | _ => false

def areDeletable : List Tree → Bool
  | [] => true
  | t :: ts => isDeletable t && areDeletable ts

end

end Tree

end ReviewDesk.Grammar

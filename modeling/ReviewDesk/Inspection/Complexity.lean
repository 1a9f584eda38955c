import ReviewDesk.Grammar.Tree

/-!
Decision points and the definitions they belong to. A node belongs to the nearest definition above
it; the parts of a nested definition, its decorators, defaults and annotations included, belong to
that one.
-/
namespace ReviewDesk.Inspection

open Grammar

/-- Functions, classes and lambdas. -/
def isDefinition (t : Tree) : Bool :=
  t.form matches .function _ _ | .classDef _ | .lambda

def isFunction (t : Tree) : Bool :=
  t.form matches .function _ _

/-- How many further paths a node opens. -/
def weight (t : Tree) : Nat :=
  match t.form with
  | .ifStatement | .ifExpression | .forLoop | .whileLoop | .handler _ | .matchCase => 1
  | .boolean => t.parts.length - 1
  | .clause conditions => 1 + conditions
  | _ => 0

mutual

/-- The nodes below `t` that belong to it, each before its own parts. -/
def own : Tree → List Tree
  | .node _ _ parts => ownOf parts

def ownOf : List Tree → List Tree
  | [] => []
  | t :: ts => (if isDefinition t then [] else t :: own t) ++ ownOf ts

end

/-- Cyclomatic complexity of a definition. -/
def complexity (t : Tree) : Nat :=
  1 + (own t).foldr (fun n rest => weight n + rest) 0

/-- The number of `if` statements of a definition. -/
def branches (t : Tree) : Nat :=
  (own t).countP (·.form matches .ifStatement)

/-- The parameters that a caller gives, without the receiver. -/
def parameterCount (names : List String) : Nat :=
  match names with
  | first :: rest => if first = "self" || first = "cls" then rest.length else names.length
  | [] => 0

mutual

/-- The number of levels of a tree. -/
def height : Tree → Nat
  | .node _ _ parts => heightOf parts + 1

def heightOf : List Tree → Nat
  | [] => 0
  | t :: ts => max (height t) (heightOf ts)

end

/-- The nodes of some trees and of the given number of levels below, level by level. -/
def levels : Nat → List Tree → List Tree
  | 0, _ => []
  | n + 1, ts => ts ++ levels n (ts.flatMap (·.parts))

/-- All nodes of a tree, level by level. -/
def walk (t : Tree) : List Tree :=
  levels (height t) [t]

end ReviewDesk.Inspection

import ReviewDesk.Grammar.Statement
import ReviewDesk.Inspection.Complexity
import ReviewDesk.Inspection.Note

/-!
Checks of a Python module on its syntax tree: functions that are too complex, take too many
parameters or branch too often, classes with too many methods, and handlers that hide exceptions.
-/
namespace ReviewDesk.Inspection

open Grammar

/-- A function is complex above the first bound, and gravely so above the second. -/
def complexityBound : Nat := 20
def graveComplexityBound : Nat := 30
def parameterBound : Nat := 5
def branchBound : Nat := 5
/-- A class mixes concerns above the first bound and owns too much above the second. -/
def methodBound : Nat := 15
def graveMethodBound : Nat := 20

def complexityIssue (name : String) (complexity : Nat) : Option Issue :=
  if complexity ≤ complexityBound then none
  else some {
    title := s!"High Cyclomatic Complexity in '{name}'"
    description := s!"'{name}' has cyclomatic complexity {complexity}, which makes it hard to " ++
      "test and reason about."
    severity := if graveComplexityBound < complexity then .high else .medium
    category := .codeSmell
    suggestedFix := some "Extract branches into smaller, well-named functions."
    explanation := some ("Every independent path through a function needs its own test case; " ++
      "high complexity also predicts defect density.")
    resources := some complexityUrl
    metrics := [s!"Cyclomatic Complexity: {complexity} (threshold: {complexityBound})"] }

def parameterIssue (name : String) (count : Nat) : Option Issue :=
  if count ≤ parameterBound then none
  else some {
    title := s!"Long Parameter List in '{name}'"
    description := s!"'{name}' takes {count} parameters; long signatures are error-prone to " ++
      "call and usually hide a missing abstraction."
    severity := .medium
    category := .codeSmell
    suggestedFix := some "Group related parameters into a dataclass or parameter object."
    metrics := [s!"Parameter Count: {count} (threshold: {parameterBound})"] }

def branchIssue (name : String) (count : Nat) : Option Issue :=
  if count ≤ branchBound then none
  else some {
    title := s!"Conditional Chain in '{name}' Could Use Strategy Pattern"
    description := s!"'{name}' contains {count} if statements. A lookup table or strategy " ++
      "objects keep each case isolated and testable."
    severity := .info
    category := .designPattern
    resources := some strategyUrl }

def methodIssue (name : String) (count : Nat) : Option Issue :=
  if graveMethodBound < count then some {
    title := s!"God Class: '{name}'"
    description := s!"'{name}' defines {count} methods and likely owns too many " ++
      "responsibilities."
    severity := .high
    category := .codeSmell
    suggestedFix := some "Split the class along its responsibilities."
    explanation := some ("A class should have one reason to change. Large classes couple " ++
      "unrelated features, so a change to one risks breaking another.")
    resources := some responsibilityUrl
    metrics := [s!"Method Count: {count} (threshold: {graveMethodBound})"] }
  else if methodBound < count then some {
    title := s!"Possible Single Responsibility Violation in '{name}'"
    description := s!"'{name}' defines {count} methods; check whether it mixes unrelated " ++
      "concerns."
    severity := .medium
    category := .architecture
    resources := some responsibilityUrl
    metrics := [s!"Method Count: {count} (threshold: {methodBound})"] }
  else none

def swallowedIssue : Issue := {
  title := "Exception Swallowed by Handler"
  description := "A bare 'except:' or a handler that only passes hides failures and makes " ++
    "production incidents hard to diagnose."
  severity := .medium
  category := .errorHandling
  suggestedFix := some "Catch the specific exception type and log or re-raise it with context." }

/-- Whether a handler hides what it catches: it names no exception, or does nothing. -/
def isSwallowing (bare : Bool) (parts : List Tree) : Bool :=
  bare || (parts.drop 1).all (·.form matches .pass)

/-- What is wrong with one node of the tree. -/
def nodeIssues (t : Tree) : List Issue :=
  match t.form with
  | .function name parameters =>
    [complexityIssue name (complexity t), parameterIssue name (parameterCount parameters),
      branchIssue name (branches t)].filterMap id
  | .classDef name => (methodIssue name (t.parts.countP isFunction)).toList
  | .handler bare => if isSwallowing bare t.parts then [swallowedIssue] else []
  | _ => []

def treeIssues (path : String) (tree : Tree) : List Issue :=
  (walk tree).flatMap fun t => (nodeIssues t).map (place path t.line)

/-- The issues of a Python module, unless it cannot be read. -/
def moduleIssues (path source : String) : Except SyntaxFault (List Issue) :=
  if path.toList.contains '\x00' then .error .nullInPath
  else (parseModule source).map (treeIssues path)

end ReviewDesk.Inspection

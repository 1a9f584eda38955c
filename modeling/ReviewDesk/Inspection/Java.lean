import ReviewDesk.Inspection.Note
import ReviewDesk.SourcePath
import ReviewDesk.Text.Scan

/-!
Checks of Java sources on their text: injected fields, empty catch blocks, constructors with many
parameters, class names that say little, and services that build their collaborators.
-/
namespace ReviewDesk.Inspection

open Text

/-- Characters of a type with its arguments, and blanks. -/
def isTypeChar (c : Char) : Bool :=
  isWord c || isBlank c || ['<', '>', ',', '.', '?', '[', ']'].contains c

/-- Whether the text between the annotation and the semicolon is a type and a name, each after a
blank. -/
def isFieldText (cs : List Char) : Bool :=
  let ending := cs.reverse.dropWhile isBlank
  let name := ending.takeWhile isWord
  let front := ending.drop name.length
  !name.isEmpty && 3 ≤ front.length && front.head?.any isBlank && cs.head?.any isBlank

/-- A field that is filled by annotation. -/
def injectedField? (cs : List Char) : Option (Unit × List Char) := do
  let rest ← after? "@Autowired" cs
  let field := rest.takeWhile isTypeChar
  match rest.drop field.length with
  | ';' :: more => if isFieldText field then some ((), more) else none
  | _ => none

def emptyCatch? (cs : List Char) : Option (Unit × List Char) := do
  let rest ← after? "(" ((← after? "catch" cs).dropWhile isBlank)
  let rest ← after? ")" (rest.dropWhile (· != ')'))
  let rest ← after? "\x7b" (rest.dropWhile isBlank)
  let rest ← after? "\x7d" (rest.dropWhile isBlank)
  some ((), rest)

/-- The name of a class that is declared here. -/
def className? (cs : List Char) : Option (String × List Char) := do
  word? (← afterBlanks? (← after? "class" cs))

/-- Endings of class names that say little about what the class does. -/
def genericEndings : List String := ["Manager", "Helper", "Util", "Utils", "Processor"]

/-- Whether the word ends in `ending` and has something before it. -/
def endsAfterMore (ending word : String) : Bool :=
  ending.length < word.length && word.endsWith ending

def genericClassName? (cs : List Char) : Option (String × List Char) := do
  let (name, rest) ← className? cs
  if genericEndings.any (endsAfterMore · name) then some (name, rest) else none

/-- The number of parameters of a constructor of the class that begins here. -/
def constructor? (name : String) (cs : List Char) : Option (Nat × List Char) := do
  let rest ← after? "public" cs <|> after? "protected" cs <|> after? "private" cs
  let rest ← after? name (← afterBlanks? rest)
  let rest ← after? "(" (rest.dropWhile isBlank)
  let inner := rest.takeWhile (· != ')')
  let rest ← after? ")" (rest.drop inner.length)
  some (((String.ofList inner).splitOn ",").countP (!isBlankText ·), rest)

/-- Distinct names in the order of their characters. -/
def distinctNames (names : List String) : List String :=
  (names.eraseDups).mergeSort fun a b => decide (a ≤ b)

def injectionIssue : Issue := {
  title := "Field Injection with @Autowired"
  description := "Field injection hides dependencies, prevents immutability, and makes the class " ++
    "hard to construct in unit tests."
  severity := .medium
  category := .bestPractice
  suggestedFix := some "Use constructor injection with final fields." }

def emptyCatchIssue : Issue := {
  title := "Empty Catch Block"
  description := "The exception is caught and silently discarded."
  severity := .medium
  category := .errorHandling
  suggestedFix := some "Log the exception with context or rethrow a domain exception." }

/-- From this many parameters on a constructor should give way to a builder. -/
def builderBound : Nat := 5

def constructorIssue (name : String) (count : Nat) : Issue := {
  title := s!"Complex Constructor in '{name}' Could Use Builder"
  description := s!"The constructor takes {count} parameters, which is easy to call with " ++
    "arguments in the wrong order."
  severity := .low
  category := .designPattern
  suggestedFix := some "Introduce a builder or a parameter object."
  resources := some builderUrl
  metrics := [s!"Parameter Count: {count}"] }

def genericNameIssue (name : String) : Issue := {
  title := s!"Generic Class Name '{name}'"
  description := "Names like Manager, Helper, Util, or Processor tend to collect unrelated " ++
    "responsibilities."
  severity := .medium
  category := .architecture
  suggestedFix := some "Rename after the single responsibility the class owns, or split it."
  resources := some responsibilityUrl }

def constructorIssues (path source name : String) : List Issue :=
  ((scan (anywhere (constructor? name)) source).filter (builderBound ≤ ·.value)).map
    fun hit => place path hit.line (constructorIssue name hit.value)

def javaIssues (path source : String) : List Issue :=
  (scan (anywhere injectedField?) source).map (place path ·.line injectionIssue) ++
  (scan (anywhere emptyCatch?) source).map (place path ·.line emptyCatchIssue) ++
  (distinctNames ((scan (atWordStart className?) source).map (·.value))).flatMap
    (constructorIssues path source) ++
  (scan (atWordStart genericClassName?) source).map
    fun hit => place path hit.line (genericNameIssue hit.value)

/-- The type of an object that is built here. -/
def newInstance? (cs : List Char) : Option (String × List Char) := do
  let rest ← afterBlanks? (← after? "new" cs)
  let (name, rest) ← word? rest
  if !name.toList.head?.any Char.isUpper then none
  else match rest.dropWhile isBlank with
    | '(' :: more => some (name, more)
    | '<' :: more => some (name, more)
    | _ => none

def plainTypes : List String :=
  ["ArrayDeque", "StringBuilder", "StringBuffer", "BigDecimal", "BigInteger", "Object", "String"]

/-- Values, collections and exceptions may be built anywhere. -/
def mayBuild (name : String) : Bool :=
  plainTypes.contains name || endsAfterMore "Exception" name || endsAfterMore "Error" name ||
  ["List", "Map", "Set"].any fun ending =>
    name.endsWith ending &&
    let front := String.ofList (name.toList.take (name.length - ending.length))
    ["Array", "Linked", "Hash", "Tree", "LinkedHash"].contains front ||
      front.startsWith "Concurrent"

def constructionIssue (service type : String) : Issue := {
  title := "Possible Dependency Inversion Violation: Using 'new' in Service"
  description := s!"{service} constructs {type} directly instead of receiving an abstraction " ++
    "through dependency injection."
  severity := .medium
  category := .architecture
  suggestedFix := some (s!"Depend on an interface for {type} and inject the implementation " ++
    "through the constructor.")
  explanation := some ("High-level policy should depend on abstractions. A hard-coded " ++
    "collaborator cannot be replaced in tests or swapped for another implementation.")
  resources := some inversionUrl }

/-- The first object that a Java service builds itself, if there is one. -/
def constructionIssues (path source : String) : List Issue :=
  let service := SourcePath.stem path
  if SourcePath.suffix path != ".java" || !service.endsWith "Service" then []
  else match (scan (atWordStart newInstance?) source).find? (!mayBuild ·.value) with
    | some hit => [place path hit.line (constructionIssue service hit.value)]
    | none => []

end ReviewDesk.Inspection

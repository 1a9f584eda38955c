import ReviewDesk.Inspection.Note
import ReviewDesk.SourcePath
import ReviewDesk.Text.Scan

/-!
Checks of the imports of domain code: the domain depends neither on the layers around it nor on
frameworks.
-/
namespace ReviewDesk.Inspection

open Text

def isDomainFile (path : String) : Bool := (SourcePath.folders path).contains "domain"

def outerLayers : List String := ["application", "infrastructure", "interfaces"]

/-- The last outer layer among the parts of a dotted name that are each followed by a dot, and the
part behind them. Every part is a whole word. -/
def layerInName? (cs : List Char) : Option String :=
  go cs.length cs none
where
  go : Nat → List Char → Option String → Option String
    | 0, _, found => found
    | n + 1, cs, found =>
      match word? cs with
      | none => found
      | some (w, rest) =>
        let found := if outerLayers.contains w then some w else found
        match rest with
        | '.' :: more => go n more found
        | _ => found

/-- What follows `import` or `from` and the blanks after it, at the beginning of a line. -/
def imported? (keywords : List String) (cs : List Char) : Option (List Char) := do
  let line := cs.dropWhile fun c => c == ' ' || c == '\t'
  let rest ← keywords.findSome? fun k => after? k line
  afterBlanks? rest

/-- An import from an outer layer. -/
def outerImport? (cs : List Char) : Option (String × List Char) := do
  let rest ← imported? ["import", "from"] cs
  let rest := ((after? "static" rest).bind afterBlanks?).getD rest
  let layer ← layerInName? (rest.dropWhile (· == '.'))
  some (layer, [])

def frameworkPackages : List String :=
  ["javax.persistence", "jakarta.persistence", "org.springframework"]

def frameworkModules : List String := ["fastapi", "flask", "django", "sqlalchemy"]

/-- An import of a framework. -/
def frameworkImport? (cs : List Char) : Option (Unit × List Char) :=
  let package := (imported? ["import"] cs).any fun rest =>
    frameworkPackages.any fun p => (after? p rest).isSome
  let module := (imported? ["import", "from"] cs).any fun rest =>
    (word? rest).any fun (w, _) => frameworkModules.contains w
  if package || module then some ((), []) else none

def outerLayerIssue (layer : String) : Issue := {
  title := "Layer Dependency Violation: Domain Depends on Outer Layers"
  description := s!"Domain code imports from the {layer} layer. Dependencies must point inward, " ++
    "toward the domain."
  severity := .critical
  category := .architecture
  suggestedFix := some ("Declare the needed interface in the domain and implement it in the outer " ++
    "layer.")
  explanation := some ("Interfaces and infrastructure depend on application code, which depends " ++
    "on the domain, never the reverse. When the domain imports outward, an infrastructure change " ++
    "can break business rules.")
  resources := some hexagonalUrl }

def frameworkIssue : Issue := {
  title := "Framework Dependency in Domain Layer"
  description := "Domain code imports a web or persistence framework, coupling business rules to " ++
    "infrastructure."
  severity := .high
  category := .architecture
  suggestedFix := some ("Keep domain types framework-free and map them in an infrastructure " ++
    "adapter.")
  explanation := some ("The domain should run without the framework so it can be tested in " ++
    "isolation and survive framework upgrades unchanged.")
  resources := some hexagonalUrl }

/-- The first import from an outer layer and the first of a framework. -/
def layeringIssues (path source : String) : List Issue :=
  if !isDomainFile path then []
  else
    ((scan (atLineStart outerImport?) source).take 1).map
      (fun hit => place path hit.line (outerLayerIssue hit.value)) ++
    ((scan (atLineStart frameworkImport?) source).take 1).map
      (place path ·.line frameworkIssue)

end ReviewDesk.Inspection

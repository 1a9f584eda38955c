import ReviewDesk.Category
import ReviewDesk.Severity
import ReviewDesk.Validation.Field

/-!
What a review reports. An `Issue` is the content of a report; a `Finding` is an issue that has been
given an identifier.
-/
namespace ReviewDesk

structure Issue where
  title : String
  description : String := ""
  severity : Severity
  category : Category
  filePath : Option String := none
  line : Option Nat := none
  endLine : Option Nat := none
  snippet : Option String := none
  suggestedFix : Option String := none
  explanation : Option String := none
  resources : Option String := none
  impact : Option Nat := none
  metrics : List String := []
  isResolved : Bool := false
  deriving Repr, DecidableEq

namespace Issue

def titleLimit : Nat := 200

/-- The title has text in it and is not too long. -/
def checkTitle (title : String) : Checked String :=
  (Field.checkLength (some 1) (some titleLimit) title).andThen fun title =>
    if Text.isBlankText title then .fail (.refused "title must not be blank") else .good title

def readTitle : Field.Reader String := fun v => (Field.text v).andThen checkTitle

def readCount : Field.Reader Nat := fun v => (Field.integerFrom 0 v).map Int.toNat

def readImpact : Field.Reader Nat := fun v => (Field.integerBetween 1 10 v).map Int.toNat

def isCritical (i : Issue) : Bool := i.severity == .critical

def isSecurityRelated (i : Issue) : Bool := i.category == .securityVulnerability

/-- Where the issue is, as a reader would write it. -/
def location (i : Issue) : String :=
  match i.filePath, i.line with
  | none, _ => "Unknown location"
  | some path, none => path
  | some path, some line => s!"{path}:{line}"

end Issue

structure Finding extends Issue where
  id : Uuid
  deriving Repr, DecidableEq

namespace Finding

/-- A finding read from its fields; `fresh` is its identifier if none is given. -/
def read (fresh : Uuid) (fields : List (String × Json)) : Checked Finding :=
  (fun id title description severity category filePath line endLine snippet suggestedFix
      explanation resources impact metrics isResolved =>
    { id, title, description, severity, category, filePath, line, endLine, snippet,
      suggestedFix, explanation, resources, impact, metrics, isResolved })
  <$> Field.optional fields "id" fresh Field.identifier
  <*> Field.required fields "title" Issue.readTitle
  <*> Field.optional fields "description" "" Field.text
  <*> Field.required fields "severity" (Field.oneOf Severity.all Severity.name)
  <*> Field.required fields "category" (Field.oneOf Category.all Category.name)
  <*> Field.optional fields "file_path" none (Field.nullable Field.text)
  <*> Field.optional fields "line_number" none (Field.nullable Issue.readCount)
  <*> Field.optional fields "end_line_number" none (Field.nullable Issue.readCount)
  <*> Field.optional fields "code_snippet" none (Field.nullable Field.text)
  <*> Field.optional fields "suggested_fix" none (Field.nullable Field.text)
  <*> Field.optional fields "explanation" none (Field.nullable Field.text)
  <*> Field.optional fields "resources_url" none (Field.nullable Field.text)
  <*> Field.optional fields "impact_score" none (Field.nullable Issue.readImpact)
  <*> Field.optional fields "metrics_violated" [] (Field.list Field.text)
  <*> Field.optional fields "is_resolved" false Field.boolean

def json (f : Finding) : Json :=
  .obj [("id", .str f.id.text), ("title", .str f.title), ("description", .str f.description),
    ("severity", .str f.severity.name), ("category", .str f.category.name),
    ("file_path", Json.ofText f.filePath), ("line_number", Json.ofOption Json.ofNat f.line),
    ("end_line_number", Json.ofOption Json.ofNat f.endLine),
    ("code_snippet", Json.ofText f.snippet), ("suggested_fix", Json.ofText f.suggestedFix),
    ("explanation", Json.ofText f.explanation), ("resources_url", Json.ofText f.resources),
    ("impact_score", Json.ofOption Json.ofNat f.impact),
    ("metrics_violated", .arr (f.metrics.map .str)), ("is_resolved", .bool f.isResolved)]

end Finding

end ReviewDesk

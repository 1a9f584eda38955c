import ReviewDesk.Json.Reader
import ReviewDesk.Review

/-!
Reviews in columns. A review is a row, and each of its findings is a row that names the review and
its place among the findings. Lists and scores are kept as JSON text, moments as text, flags as
numbers. Main definitions: `reviewRow`, `findingRow`, and `readReview`, which reads them back.
-/
namespace ReviewDesk.Store

/-- What stands in a column of a row. -/
inductive Cell where
  | null
  | integer (value : Int)
  | real (value : Float)
  | text (value : String)

namespace Cell

def ofOption {α : Type} (cell : α → Cell) (value : Option α) : Cell := value.elim .null cell

def ofNat (n : Nat) : Cell := .integer n

def ofMoment (m : Moment) : Cell := .text m.storedText

/-- A double that is no number is left out, and a zero has no sign. -/
def ofReal (x : Float) : Cell :=
  if x.isNaN then .null else .real (if x == 0.0 then 0.0 else x)

def ofFlag (flag : Bool) : Cell := .integer (if flag then 1 else 0)

def text? : Cell → Option String
  | text s => some s
  | _ => none

def integer? : Cell → Option Int
  | integer n => some n
  | _ => none

def real? : Cell → Option Float
  | real x => some x
  | _ => none

def nullable {α : Type} (read : Cell → Option α) : Cell → Option (Option α)
  | null => some none
  | c => (read c).map some

/-- A text that passes a check. -/
def checked? {α : Type} (check : String → Checked α) (c : Cell) : Option α := do
  (check (← c.text?)).toOption

def named? {α : Type} (all : List α) (name : α → String) (c : Cell) : Option α := do
  let text ← c.text?
  all.find? (name · == text)

def identifier? (c : Cell) : Option Uuid := do Uuid.parseLoose? (← c.text?)

def moment? (c : Cell) : Option Moment := do Moment.readStored? (← c.text?)

def natural? (c : Cell) : Option Nat := do
  let n ← c.integer?
  if n < 0 then none else some n.toNat

def between? (least most : Nat) (c : Cell) : Option Nat := do
  let n ← c.natural?
  if n < least || most < n then none else some n

def flag? (c : Cell) : Option Bool := do return (← c.integer?) != 0

/-- A value that is read from JSON text. -/
def json? {α : Type} (read : Field.Reader α) (c : Cell) : Option α := do
  let value ← (Json.parse (← c.text?)).toOption
  (read value).toOption

end Cell

/-- The columns of a row by name. -/
abbrev Row := List (String × Cell)

def Row.cell (row : Row) (column : String) : Cell := (row.lookup column).getD .null

def reviewRow (r : Review) : Row :=
  [("id", .text r.id.text),
    ("user_id", .text r.reviewerId.text),
    ("title", .text r.title),
    ("description", .ofOption .text r.description),
    ("status", .text r.status.name),
    ("quality_score", .ofOption (fun s => .text (s.json.write .dense)) r.score),
    ("total_files_analyzed", .ofNat r.filesAnalyzed),
    ("total_lines_analyzed", .ofNat r.linesAnalyzed),
    ("analysis_duration_ms", .ofOption .integer r.durationMs),
    ("started_at", .ofOption .ofMoment r.startedAt),
    ("completed_at", .ofOption .ofMoment r.completedAt),
    ("ai_model_used", .ofOption .text r.modelUsed),
    ("tokens_used", .ofOption .integer r.tokensUsed),
    ("cost_usd", .ofOption .ofReal r.costUsd),
    ("created_at", .ofMoment r.createdAt)]

def findingRow (review : Uuid) (position : Nat) (f : Finding) : Row :=
  [("id", .text f.id.text),
    ("code_review_id", .text review.text),
    ("position", .ofNat position),
    ("title", .text f.title),
    ("description", .text f.description),
    ("severity", .text f.severity.name),
    ("category", .text f.category.name),
    ("file_path", .ofOption .text f.filePath),
    ("line_number", .ofOption .ofNat f.line),
    ("end_line_number", .ofOption .ofNat f.endLine),
    ("code_snippet", .ofOption .text f.snippet),
    ("suggested_fix", .ofOption .text f.suggestedFix),
    ("explanation", .ofOption .text f.explanation),
    ("resources_url", .ofOption .text f.resources),
    ("impact_score", .ofOption .ofNat f.impact),
    ("metrics_violated", .text (Json.write .spaced (.arr (f.metrics.map .str)))),
    ("is_resolved", .ofFlag f.isResolved)]

/-- The rows of the findings of a review. -/
def rowsOfFindings (r : Review) : List Row :=
  r.findings.mapIdx (findingRow r.id)

def readFinding (row : Row) : Option Finding := do
  let id ← (row.cell "id").identifier?
  let title ← (row.cell "title").checked? Issue.checkTitle
  let description ← (row.cell "description").text?
  let severity ← (row.cell "severity").named? Severity.all Severity.name
  let category ← (row.cell "category").named? Category.all Category.name
  let filePath ← (row.cell "file_path").nullable Cell.text?
  let line ← (row.cell "line_number").nullable Cell.natural?
  let endLine ← (row.cell "end_line_number").nullable Cell.natural?
  let snippet ← (row.cell "code_snippet").nullable Cell.text?
  let suggestedFix ← (row.cell "suggested_fix").nullable Cell.text?
  let explanation ← (row.cell "explanation").nullable Cell.text?
  let resources ← (row.cell "resources_url").nullable Cell.text?
  let impact ← (row.cell "impact_score").nullable (Cell.between? 1 10)
  let metrics ← (row.cell "metrics_violated").json? (Field.list Field.text)
  let isResolved ← (row.cell "is_resolved").flag?
  return {
    id, title, description, severity, category, filePath, line, endLine, snippet, suggestedFix,
    explanation, resources, impact, metrics, isResolved }

/-- The rows that name a review, in their order among its findings. -/
def rowsOf (review : String) (rows : List Row) : List Row :=
  (rows.filter fun row => (row.cell "code_review_id").text? == some review).mergeSort fun a b =>
    (a.cell "position").integer?.getD 0 ≤ (b.cell "position").integer?.getD 0

/-- The review of a row, with the findings whose rows name it. -/
def readReview (row : Row) (findings : List Row) : Option Review := do
  let key ← (row.cell "id").text?
  let findings ← (rowsOf key findings).mapM readFinding
  let score ← (row.cell "quality_score").nullable
    (Cell.json? (Field.record "CodeQualityScore" Score.read))
  let id ← (row.cell "id").identifier?
  let reviewerId ← (row.cell "user_id").identifier?
  let title ← (row.cell "title").checked? (Field.checkLength (some 1) (some Review.titleLimit))
  let description ← (row.cell "description").nullable Cell.text?
  let status ← (row.cell "status").named? Review.Status.all Review.Status.name
  let filesAnalyzed ← (row.cell "total_files_analyzed").natural?
  let linesAnalyzed ← (row.cell "total_lines_analyzed").natural?
  let durationMs ← (row.cell "analysis_duration_ms").nullable Cell.integer?
  let startedAt ← (row.cell "started_at").nullable Cell.moment?
  let completedAt ← (row.cell "completed_at").nullable Cell.moment?
  let modelUsed ← (row.cell "ai_model_used").nullable Cell.text?
  let tokensUsed ← (row.cell "tokens_used").nullable Cell.integer?
  let costUsd ← (row.cell "cost_usd").nullable Cell.real?
  let createdAt ← (row.cell "created_at").moment?
  return {
    id, reviewerId, title, description, status, findings, score, filesAnalyzed, linesAnalyzed,
    durationMs, startedAt, completedAt, modelUsed, tokensUsed, costUsd, createdAt }

end ReviewDesk.Store

import ReviewDesk.Score

/-!
A review: its findings, its score, and the way from pending to completed or failed.
-/
namespace ReviewDesk

namespace Review

inductive Status where
  | pending | inProgress | completed | failed
  deriving Repr, DecidableEq

def Status.all : List Status := [.pending, .inProgress, .completed, .failed]

def Status.name : Status → String
  | pending => "PENDING"
  | inProgress => "IN_PROGRESS"
  | completed => "COMPLETED"
  | failed => "FAILED"

def Status.ofName? (s : String) : Option Status := Status.all.find? (·.name == s)

end Review

structure Review where
  id : Uuid
  reviewerId : Uuid
  title : String
  description : Option String := none
  status : Review.Status := .pending
  findings : List Finding := []
  score : Option Score := none
  filesAnalyzed : Nat := 0
  linesAnalyzed : Nat := 0
  durationMs : Option Int := none
  startedAt : Option Moment := none
  completedAt : Option Moment := none
  modelUsed : Option String := none
  tokensUsed : Option Int := none
  costUsd : Option Float := none
  createdAt : Moment
  deriving Repr

namespace Review

def titleLimit : Nat := 200

def readTitle : Field.Reader String := Field.textBetween (some 1) (some titleLimit)
def readStatus : Field.Reader Status := Field.oneOf Status.all Status.name
def readText : Field.Reader (Option String) := Field.nullable Field.text
def readCount : Field.Reader Nat := fun v => (Field.integerFrom 0 v).map Int.toNat
def readInteger : Field.Reader (Option Int) := Field.nullable Field.integer
def readMoment : Field.Reader (Option Moment) := Field.nullable Field.moment
def readScore : Field.Reader (Option Score) :=
  Field.nullable (Field.record "CodeQualityScore" Score.read)

/-- Findings whose identifiers are taken from `fresh` where they are left out. -/
def readFindings (fresh : Nat → Uuid) : Field.Reader (List Finding) :=
  Field.indexed fun i => Field.record "ReviewFinding" (Finding.read (fresh i))

/-- A review read from its fields. `fresh` gives identifiers that are left out: number 0 is for the
review itself, the others are for its findings. -/
def read (fresh : Nat → Uuid) (now : Moment) (fields : List (String × Json)) : Checked Review :=
  (fun id reviewerId title description status findings score filesAnalyzed linesAnalyzed
      durationMs startedAt completedAt modelUsed tokensUsed costUsd createdAt =>
    { id, reviewerId, title, description, status, findings, score, filesAnalyzed, linesAnalyzed,
      durationMs, startedAt, completedAt, modelUsed, tokensUsed, costUsd, createdAt })
  <$> Field.optional fields "id" (fresh 0) Field.identifier
  <*> Field.required fields "reviewer_id" Field.identifier
  <*> Field.required fields "title" readTitle
  <*> Field.optional fields "description" none readText
  <*> Field.optional fields "status" .pending readStatus
  <*> Field.optional fields "findings" [] (readFindings fun i => fresh (i + 1))
  <*> Field.optional fields "quality_score" none readScore
  <*> Field.optional fields "total_files_analyzed" 0 readCount
  <*> Field.optional fields "total_lines_analyzed" 0 readCount
  <*> Field.optional fields "analysis_duration_ms" none readInteger
  <*> Field.optional fields "started_at" none readMoment
  <*> Field.optional fields "completed_at" none readMoment
  <*> Field.optional fields "ai_model_used" none readText
  <*> Field.optional fields "tokens_used" none readInteger
  <*> Field.optional fields "cost_usd" none (Field.nullable Field.real)
  <*> Field.optional fields "created_at" now Field.moment

/-- A new review with nothing but an owner and a title, which has to fit. -/
def make (id : Uuid) (now : Moment) (reviewer : Uuid) (title : String)
    (description : Option String) : Checked Review :=
  (fun title => { id, reviewerId := reviewer, title, description, createdAt := now })
  <$> (Field.checkLength (some 1) (some titleLimit) title).under "title"

/-- The review with a new value in one field. -/
def assign (fresh : Nat → Uuid) (r : Review) (field : String) (v : Json) : Checked Review :=
  match field with
  | "id" => Field.assigned field v Field.identifier fun x => { r with id := x }
  | "reviewer_id" => Field.assigned field v Field.identifier fun x => { r with reviewerId := x }
  | "title" => Field.assigned field v readTitle fun x => { r with title := x }
  | "description" => Field.assigned field v readText fun x => { r with description := x }
  | "status" => Field.assigned field v readStatus fun x => { r with status := x }
  | "findings" =>
    Field.assigned field v (readFindings fresh) fun x => { r with findings := x }
  | "quality_score" => Field.assigned field v readScore fun x => { r with score := x }
  | "total_files_analyzed" =>
    Field.assigned field v readCount fun x => { r with filesAnalyzed := x }
  | "total_lines_analyzed" =>
    Field.assigned field v readCount fun x => { r with linesAnalyzed := x }
  | "analysis_duration_ms" =>
    Field.assigned field v readInteger fun x => { r with durationMs := x }
  | "started_at" => Field.assigned field v readMoment fun x => { r with startedAt := x }
  | "completed_at" => Field.assigned field v readMoment fun x => { r with completedAt := x }
  | "ai_model_used" => Field.assigned field v readText fun x => { r with modelUsed := x }
  | "tokens_used" => Field.assigned field v readInteger fun x => { r with tokensUsed := x }
  | "cost_usd" =>
    Field.assigned field v (Field.nullable Field.real) fun x => { r with costUsd := x }
  | "created_at" => Field.assigned field v Field.moment fun x => { r with createdAt := x }
  | other => (Checked.fail (.noSuchField other)).under other

/-- Assigns one field after the other up to the first problem; what has been assigned stays. -/
def assignAll (fresh : Nat → Uuid) (r : Review) : List (String × Json) → Review × List Problem
  | [] => (r, [])
  | (field, v) :: rest =>
    match r.assign fresh field v with
    | .good s => s.assignAll fresh rest
    | .bad ps => (r, ps)

def json (r : Review) : Json :=
  .obj [("id", .str r.id.text), ("reviewer_id", .str r.reviewerId.text), ("title", .str r.title),
    ("description", Json.ofText r.description), ("status", .str r.status.name),
    ("findings", .arr (r.findings.map Finding.json)),
    ("quality_score", Json.ofOption Score.json r.score),
    ("total_files_analyzed", Json.ofNat r.filesAnalyzed),
    ("total_lines_analyzed", Json.ofNat r.linesAnalyzed),
    ("analysis_duration_ms", Json.ofOption .int r.durationMs),
    ("started_at", Json.ofOption Moment.json r.startedAt),
    ("completed_at", Json.ofOption Moment.json r.completedAt),
    ("ai_model_used", Json.ofText r.modelUsed), ("tokens_used", Json.ofOption .int r.tokensUsed),
    ("cost_usd", Json.ofOption .real r.costUsd), ("created_at", r.createdAt.json)]

def issues (r : Review) : List Issue := r.findings.map Finding.toIssue

def addFinding (r : Review) (f : Finding) : Review := { r with findings := r.findings ++ [f] }

def findFinding (r : Review) (id : Uuid) : Option Finding := r.findings.find? (·.id == id)

def start (now : Moment) (r : Review) : Review :=
  { r with status := .inProgress, startedAt := some now }

/-- Milliseconds between two moments: the seconds as a double, times a thousand, without the
fraction. -/
def millisecondsBetween (start finish : Moment) : Int :=
  let micros := finish.instant - start.instant
  let seconds := Decimal.ofDigits micros.natAbs (-6)
  let millis := (Decimal.wholePart? (seconds * 1000.0)).getD 0
  if micros < 0 then -millis else millis

/-- Whether two moments can be compared: both have a zone, or neither. -/
def comparable (a b : Moment) : Bool := a.zone.isSome == b.zone.isSome

/-- Completes the review. The duration is left alone if there is no start, or if the start and the
end cannot be compared, which the flag tells. -/
def complete (now : Moment) (score : Score) (r : Review) : Review × Bool :=
  let done := { r with status := .completed, completedAt := some now, score := some score }
  match r.startedAt with
  | none => (done, true)
  | some start =>
    if comparable start now then
      ({ done with durationMs := some (millisecondsBetween start now) }, true)
    else (done, false)

/-- The text of a failure is kept up to this many characters. -/
def reasonLimit : Nat := 1000

def fail (now : Moment) (reason : String) (r : Review) : Review :=
  { r with
    status := .failed
    description := some (String.ofList (reason.toList.take reasonLimit))
    completedAt := some now }

def withSeverity (r : Review) (s : Severity) : List Finding :=
  r.findings.filter (·.severity == s)

def inCategory (r : Review) (c : Category) : List Finding :=
  r.findings.filter (·.category == c)

def critical (r : Review) : List Finding := r.withSeverity .critical

def isCompleted (r : Review) : Bool := r.status == .completed
def isInProgress (r : Review) : Bool := r.status == .inProgress
def hasCritical (r : Review) : Bool := r.findings.any (·.isCritical)

def setResolved (r : Review) (id : Uuid) (flag : Bool) : Review :=
  { r with findings := r.findings.map fun f => if f.id == id then { f with isResolved := flag } else f }

end Review

end ReviewDesk

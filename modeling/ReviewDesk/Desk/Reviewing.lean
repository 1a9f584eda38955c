import ReviewDesk.Desk.Basic
import ReviewDesk.Hiring
import ReviewDesk.Inspection.Project
import ReviewDesk.Report.FixingPrompt
import ReviewDesk.Report.Rendering

/-!
Reviews: how one is made and kept, and what is told of it. A review is of a quota, so a place is
taken before the work starts and given back if it fails.
-/
namespace ReviewDesk

/-- Figures about the reviews of one account. -/
structure Statistics where
  reviews : Nat
  completed : Nat
  averageScore : Float
  findings : Nat
  critical : Nat
  deriving Repr

/-- What the findings of one review add up to. -/
structure Insights where
  reviewId : Uuid
  severities : List (Severity × Nat)
  categories : List (Category × Nat)
  unresolved : Nat
  security : Nat
  score : Option Score
  hiring : Hiring.Impact
  deriving Repr

/-- A text that asks for the findings of a review to be mended. -/
structure FixingRequest where
  prompt : String
  findings : Nat
  critical : Nat
  high : Nat
  medium : Nat
  low : Nat
  reviewId : Uuid
  generatedAt : Moment
  instructions : String
  deriving Repr, DecidableEq

structure Download where
  content : String
  fileName : String
  mediaType : String
  deriving Repr, DecidableEq

namespace Desk

variable {σ : Type}

/-- Most files that a review without an account, or a single request, may have. -/
def requestFiles : Nat := 100

/-- A started review with what both passes found, measured and completed. -/
def concluded (now : Moment) (model : String) (files : Files) (usage : Usage)
    (findings : List Finding) (r : Review) : Review :=
  let r := { r with findings }
  let r := { r with
    filesAnalyzed := files.length
    linesAnalyzed := files.totalLines
    tokensUsed := some usage.tokens
    costUsd := some usage.costUsd
    modelUsed := some model }
  (r.complete now (Score.ofIssues r.issues)).1

/-- An analysis that went wrong: why, and the review as it stood then. -/
structure Setback where
  fault : Model.Fault
  review : Review

/-- Both passes over the files: the model, then the checks. If the checks fail, the review has what
the model found. -/
def analyse (m : Model σ) (files : Files) (r : Review) :
    Task σ (Except Setback (Review × Usage)) := do
  let now ← clock
  let r := r.start now
  let start : Usage := { model := m.name }
  match ← askModel (m.analyzeProject {} files (some start)) with
  | .error fault => return .error ⟨fault, r⟩
  | .ok (issues, usage) =>
    match Inspection.run files with
    | .error _ =>
      let findings ← identify issues
      return .error ⟨.broken "", { r with findings := r.findings ++ findings }⟩
    | .ok checks =>
      let usage := checks.warnings.foldl (fun u w => u.warn w) (usage.getD start)
      let findings ← identify (issues ++ checks.issues)
      return .ok (concluded now m.name files usage findings r, usage)

/-- What the caller's own copy of the account says about a new review. -/
def checkAdmission (caller : Account) (files : Files) : Except Failure Unit :=
  if !caller.canCreateReview then .error .quota
  else match caller.maxFiles with
    | some most =>
      if most < files.length then .error (.planTooSmall files.length caller.tier most) else .ok ()
    | none => .ok ()

/-- Takes a place in the quota; the stored account decides, since the caller's copy may be old. -/
def reserve (caller : Account) : Task σ Unit := do
  let now ← clock
  if !(← adjust fun s => s.reserveReview now caller.id) then fail .quota

def saveReview (r : Review) : Task σ Unit := change fun s => (s.saveReview r).map ((), ·)

/-- A new review that is waiting. -/
def openReview (caller : Account) (title : String) (description : Option String) :
    Task σ Review := do
  let r ← checked (Review.make (← freshId) (← clock) caller.id title description)
  saveReview r
  return r

/-- Gives the place back and keeps the review as failed. -/
def abandon (caller : Account) (r : Review) (reason : String) : Task σ Unit := do
  let now ← clock
  adjust fun s => ((), s.releaseReview now caller.id)
  saveReview (r.fail now (Failure.analysis reason).message)

/-- Keeps the completed review and counts its files. -/
def keep (caller : Account) (files : Files) (r : Review) : Task σ Unit := do
  saveReview r
  let now ← clock
  change fun s => (s.addFiles now caller.id files.length).map ((), ·)

/-- Reviews files for an account. -/
def createReview (m : Model σ) (caller : Account) (title : String) (description : Option String)
    (files : Files) : Task σ Review := do
  match checkAdmission caller files with
  | .error failure => fail failure
  | .ok () =>
    reserve caller
    let r ← openReview caller title description
    match ← analyse m files r with
    | .ok (r, _) =>
      keep caller files r
      return r
    | .error setback =>
      abandon caller setback.review setback.fault.message
      fail (.analysis setback.fault.message)

/-- Reviews files without an account; nothing is kept. -/
def reviewLocally (m : Model σ) (title : String) (files : Files) : Task σ (Review × Usage) := do
  if files.isEmpty then fail .noFiles
  if requestFiles < files.length then fail (.tooManyFiles files.length requestFiles)
  let r ← checked (Review.make (← freshId) (← clock) (Uuid.ofNat 0) title none)
  match ← analyse m files r with
  | .ok result => return result
  | .error setback => fail (.analysis setback.fault.message)

/-- A review that the caller may see: its owner and administrators may. -/
def reviewFor (caller : Account) (id : Uuid) : Task σ Review := do
  match (← get).store.getReview id with
  | none => fail (.noReview id)
  | some r =>
    if r.reviewerId == caller.id || caller.isAdmin then return r else fail .foreignReview

def reviewsFor (caller : Account) (limit : Option Int) : Task σ (List Review) :=
  look (Store.reviewsOf caller.id limit)

/-- The name of the owner of a review, if the account is still there. -/
def reviewerName (r : Review) : Task σ (Option String) := do
  return (← look (Store.getAccount r.reviewerId)).map (·.username)

/-- The mean of some scores, to two places. -/
def meanScore (scores : List Int) : Float :=
  if scores.isEmpty then 0.0
  else Decimal.roundPlaces 2 (Field.realOfInt (scores.foldr (· + ·) 0) / Field.realOfInt scores.length)

def statisticsOf (reviews : List Review) : Statistics := {
  reviews := reviews.length
  completed := reviews.countP (·.isCompleted)
  averageScore := meanScore (reviews.filterMap fun r => r.score.map (·.overall))
  findings := reviews.foldr (fun r rest => r.findings.length + rest) 0
  critical := reviews.foldr (fun r rest => r.critical.length + rest) 0 }

def statistics (caller : Account) : Task σ Statistics := do
  return statisticsOf (← reviewsFor caller none)

/-- A summary in the words of the model. -/
def summary (m : Model σ) (caller : Account) (id : Uuid) : Task σ String := do
  let r ← reviewFor caller id
  match ← askModel (m.summarize r.issues none) with
  | .ok (text, _) => return text
  | .error fault => fail (.model fault)

/-- Marks a finding as resolved. -/
def resolveFinding (caller : Account) (review finding : Uuid) : Task σ Finding := do
  let r ← reviewFor caller review
  match r.findFinding finding with
  | none => fail (.noFinding finding)
  | some f =>
    let _ ← adjust fun s => s.setResolved r.id f.id true
    return { f with isResolved := true }

def deleteReview (caller : Account) (id : Uuid) : Task σ Unit := do
  let r ← reviewFor caller id
  adjust fun s => ((), s.deleteReview r.id)

def insightsOf (r : Review) : Insights := {
  reviewId := r.id
  severities := Issue.severityCounts r.issues
  categories := Issue.categoryCounts r.issues
  unresolved := r.findings.countP (!·.isResolved)
  security := r.findings.countP (·.isSecurityRelated)
  score := r.score
  hiring := Hiring.assess r.score r.issues }

def insights (caller : Account) (id : Uuid) : Task σ Insights := do
  return insightsOf (← reviewFor caller id)

def fixingRequestOf (now : Moment) (r : Review) : FixingRequest := {
  prompt := FixingPrompt.render r
  findings := r.findings.length
  critical := (r.withSeverity .critical).length
  high := (r.withSeverity .high).length
  medium := (r.withSeverity .medium).length
  low := (r.withSeverity .low).length
  reviewId := r.id
  generatedAt := now
  instructions := FixingPrompt.instructions }

def fixingRequest (caller : Account) (id : Uuid) : Task σ FixingRequest := do
  let r ← reviewFor caller id
  return fixingRequestOf (← clock) r

/-- A report for download; the name of its format may be in any case. -/
def download (caller : Account) (id : Uuid) (format : String) : Task σ Download := do
  match Report.Format.ofName? (Text.lower format) with
  | none => fail (.unknownFormat format)
  | some f =>
    let r ← reviewFor caller id
    return ⟨Report.render r f, Report.fileName r f, f.mediaType⟩

end Desk

end ReviewDesk

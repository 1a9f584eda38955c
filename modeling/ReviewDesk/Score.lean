import ReviewDesk.Decimal.Binary
import ReviewDesk.Finding

/-!
The quality score of a set of issues: five sub-scores that start full and lose points for each
issue, their weighted average, and a letter grade.
-/
namespace ReviewDesk

/-- The sub-scores that the overall score is made of. -/
structure SubScores where
  security : Int
  performance : Int
  maintainability : Int
  bestPractices : Int
  testCoverage : Int
  deriving Repr, DecidableEq

structure Score where
  overall : Int
  parts : SubScores
  grade : String
  deriving Repr, DecidableEq

namespace Score

/-- The least score of each grade, best first. -/
def gradeBounds : List (Int × String) :=
  [(95, "A+"), (90, "A"), (85, "A-"), (80, "B+"), (75, "B"), (70, "B-"), (65, "C+"), (60, "C"),
    (55, "C-"), (50, "D")]

def gradeOf (overall : Int) : String :=
  match gradeBounds.find? (·.1 ≤ overall) with
  | some (_, grade) => grade
  | none => "F"

/-- The weights in units of 2⁻⁵⁵: the doubles nearest to 0.25, 0.2 and 0.1. -/
def quarter : Int := 9007199254740992
def fifth : Int := 7205759403792794
def tenth : Int := 3602879701896397

/-- The weighted average in double precision: every product and every partial sum is rounded to 53
bits, and the fraction of the last sum is dropped. -/
def overallOf (p : SubScores) : Int :=
  let product (n weight : Int) : Int := Decimal.round53Int (Decimal.round53Int n * weight)
  let plus (a b : Int) : Int := Decimal.round53Int (a + b)
  let sum := plus (plus (plus (plus (product p.security quarter) (product p.performance fifth))
    (product p.maintainability quarter)) (product p.bestPractices fifth))
    (product p.testCoverage tenth)
  sum.tdiv 0x80000000000000

def ofParts (parts : SubScores) : Score :=
  let overall := overallOf parts
  { overall, parts, grade := gradeOf overall }

/-- Scores lie between 0 and 100. -/
def checkRange (n : Int) : Checked Int :=
  (Field.checkAtMost 100 n).andThen (Field.checkAtLeast 0)

def check (s : Score) : Checked Score :=
  (fun overall security performance maintainability bestPractices testCoverage =>
    ⟨overall, ⟨security, performance, maintainability, bestPractices, testCoverage⟩, s.grade⟩)
  <$> (checkRange s.overall).under "overall_score"
  <*> (checkRange s.parts.security).under "security_score"
  <*> (checkRange s.parts.performance).under "performance_score"
  <*> (checkRange s.parts.maintainability).under "maintainability_score"
  <*> (checkRange s.parts.bestPractices).under "best_practices_score"
  <*> (checkRange s.parts.testCoverage).under "test_coverage_score"

/-- The score of sub-scores that may be out of range. -/
def calculate (parts : SubScores) : Checked Score := (ofParts parts).check

def readPart : Field.Reader Int := Field.integerBetween 0 100

def read (fields : List (String × Json)) : Checked Score :=
  (fun overall security performance maintainability bestPractices testCoverage grade =>
    ⟨overall, ⟨security, performance, maintainability, bestPractices, testCoverage⟩, grade⟩)
  <$> Field.required fields "overall_score" readPart
  <*> Field.required fields "security_score" readPart
  <*> Field.required fields "performance_score" readPart
  <*> Field.required fields "maintainability_score" readPart
  <*> Field.required fields "best_practices_score" readPart
  <*> Field.required fields "test_coverage_score" readPart
  <*> Field.required fields "grade" Field.text

def json (s : Score) : Json :=
  .obj [("overall_score", .int s.overall), ("security_score", .int s.parts.security),
    ("performance_score", .int s.parts.performance),
    ("maintainability_score", .int s.parts.maintainability),
    ("best_practices_score", .int s.parts.bestPractices),
    ("test_coverage_score", .int s.parts.testCoverage), ("grade", .str s.grade)]

def isExcellent (s : Score) : Bool := 90 ≤ s.overall
def isGood (s : Score) : Bool := 75 ≤ s.overall
def needsImprovement (s : Score) : Bool := s.overall < 60

/-- Points that an issue costs in its category. -/
def deduction : Severity → Int
  | .critical => 20
  | .high => 10
  | .medium => 5
  | .low => 2
  | .info => 0

/-- Points that an issue costs in maintainability. -/
def maintenanceDeduction : Severity → Int
  | .critical => 15
  | .high => 8
  | .medium => 4
  | .low => 2
  | .info => 0

/-- What is left of the full points after the issues of some categories, never below zero. -/
def remaining (full : Int) (counts : Category → Bool) (cost : Severity → Int)
    (issues : List Issue) : Int :=
  max 0 (issues.foldl (fun n i => if counts i.category then n - cost i.severity else n) full)

def ofCategory (c : Category) (issues : List Issue) : Int :=
  remaining 100 (· == c) deduction issues

def isMaintenance (c : Category) : Bool :=
  c == .codeSmell || c == .naming || c == .duplication

/-- Without knowledge of the tests, testing starts from 70 points. -/
def testingBaseline : Int := 70

def partsOf (issues : List Issue) : SubScores where
  security := ofCategory .securityVulnerability issues
  performance := ofCategory .performance issues
  maintainability := remaining 100 isMaintenance maintenanceDeduction issues
  bestPractices := ofCategory .bestPractice issues
  testCoverage := remaining testingBaseline (· == .testing) deduction issues

def ofIssues (issues : List Issue) : Score := ofParts (partsOf issues)

end Score

namespace Issue

/-- How many issues there are of each severity, the gravest first. -/
def severityCounts (issues : List Issue) : List (Severity × Nat) :=
  Severity.all.map fun s => (s, issues.countP (·.severity == s))

/-- How many issues there are of each category that has any. -/
def categoryCounts (issues : List Issue) : List (Category × Nat) :=
  (Category.all.map fun c => (c, issues.countP (·.category == c))).filter (0 < ·.2)

def countOf (s : Severity) (issues : List Issue) : Nat := issues.countP (·.severity == s)

end Issue

end ReviewDesk

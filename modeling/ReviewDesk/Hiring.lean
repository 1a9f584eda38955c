import ReviewDesk.Score

/-!
How a review result would read to a prospective employer.
-/
namespace ReviewDesk.Hiring

structure Level where
  level : String
  description : String
  percentile : Nat
  salaryRange : String
  deriving Repr, DecidableEq

structure Improvement where
  time : String
  effort : String
  deriving Repr, DecidableEq

structure Readiness where
  status : String
  message : String
  deriving Repr, DecidableEq

structure Signal where
  issue : String
  impact : String
  status : String
  description : String
  deriving Repr, DecidableEq

structure Impact where
  hireability : Level
  improvement : Improvement
  readiness : Readiness
  signals : List Signal
  deriving Repr, DecidableEq

def level (overall : Int) : Level :=
  if 85 ≤ overall then
    ⟨"Senior", "Your code demonstrates senior-level craftsmanship", 90, "$120K - $180K"⟩
  else if 75 ≤ overall then
    ⟨"Mid-Level", "Code quality meets mid-level professional standards", 70, "$80K - $120K"⟩
  else if 60 ≤ overall then
    ⟨"Junior+", "Suitable for junior positions with some improvements", 45, "$60K - $80K"⟩
  else
    ⟨"Entry Level", "Needs significant improvement before job applications", 25,
      "$45K - $60K"⟩

def improvement (critical high : Int) : Improvement :=
  let weighted := critical * 3 + high * 2
  if 20 < weighted then ⟨"4-6 weeks", "High"⟩
  else if 10 < weighted then ⟨"2-3 weeks", "Medium"⟩
  else if 5 < weighted then ⟨"1-2 weeks", "Low"⟩
  else ⟨"< 1 week", "Minimal"⟩

def readiness (critical security : Int) : Readiness :=
  if critical == 0 && 80 ≤ security then
    ⟨"Ready", "Your code is ready to showcase to employers"⟩
  else if critical ≤ 2 then
    ⟨"Almost Ready", "Fix critical issues before applying"⟩
  else
    ⟨"Not Ready", "Significant work needed before interviews"⟩

def securitySignal (critical : Int) : Signal :=
  if 0 < critical then
    ⟨"Security Vulnerabilities", "Critical Red Flag", "danger",
      s!"{critical} critical security issues will raise immediate concerns"⟩
  else
    ⟨"Security Vulnerabilities", "Looking Good", "success",
      "No critical security issues detected"⟩

def architectureSignal (overall : Int) : Signal :=
  if 70 ≤ overall then
    ⟨"Code Architecture", "Professional Level", "success",
      "Architecture demonstrates good design principles"⟩
  else
    ⟨"Code Architecture", "Needs Improvement", "warning",
      "Architecture patterns need refinement"⟩

def practicesSignal (high : Int) : Signal :=
  if high ≤ 3 then
    ⟨"Best Practices", "Industry Standard", "success", "Follows framework best practices"⟩
  else
    ⟨"Best Practices", "Below Standard", "warning", s!"{high} high-priority issues to address"⟩

def ofCounts (overall critical high security : Int) : Impact where
  hireability := level overall
  improvement := improvement critical high
  readiness := readiness critical security
  signals := [securitySignal critical, architectureSignal overall, practicesSignal high]

/-- The impact of a score, if there is one, and of the issues behind it. -/
def assess (score : Option Score) (issues : List Issue) : Impact :=
  ofCounts (score.elim 0 (·.overall)) (Issue.countOf .critical issues)
    (Issue.countOf .high issues) (score.elim 0 (·.parts.security))

def Impact.json (i : Impact) : Json :=
  let signal (s : Signal) : Json := .obj [("issue", .str s.issue), ("impact", .str s.impact),
    ("status", .str s.status), ("description", .str s.description)]
  .obj [("hireability", .obj [("level", .str i.hireability.level),
      ("description", .str i.hireability.description),
      ("percentile", Json.ofNat i.hireability.percentile),
      ("salary_range", .str i.hireability.salaryRange)]),
    ("improvement", .obj [("time", .str i.improvement.time), ("effort", .str i.improvement.effort)]),
    ("readiness", .obj [("status", .str i.readiness.status), ("message", .str i.readiness.message)]),
    ("signals", .arr (i.signals.map signal))]

end ReviewDesk.Hiring

import ReviewDesk.Report.Format

/-!
A review as a markdown document.
-/
namespace ReviewDesk.Report

/-- A text that says something, or the words that stand in for it. -/
def orElse (text fallback : String) : String := if text.isEmpty then fallback else text

/-- The lines that a text brings with it, if there is one. -/
def linesFor (text : Option String) (write : String → List String) : List String :=
  match text with
  | some t => if t.isEmpty then [] else write t
  | none => []

namespace Markdown

def scoreLines (score : Score) : List String :=
  ["", "## Quality Score", "", s!"**Overall: {score.overall}/100 (Grade {score.grade})**", "",
    "| Area | Score |", "| --- | --- |", s!"| Security | {score.parts.security} |",
    s!"| Performance | {score.parts.performance} |",
    s!"| Maintainability | {score.parts.maintainability} |",
    s!"| Best Practices | {score.parts.bestPractices} |",
    s!"| Test Coverage | {score.parts.testCoverage} |"]

def countLines (issues : List Issue) : List String :=
  ["", "## Summary by Severity", ""] ++
    (Issue.severityCounts issues).map (fun (s, n) => s!"- {s.name}: {n}") ++
  match Issue.categoryCounts issues with
  | [] => []
  | counts =>
    ["", "## Summary by Category", ""] ++ counts.map fun (c, n) => s!"- {c.name}: {n}"

def findingLines (number : Nat) (f : Finding) : List String :=
  let status := if f.isResolved then "resolved" else "open"
  [s!"### {number}. {f.title}", "",
    s!"**{f.severity.name} / {f.category.name}** at `{f.location}` ({status})", "",
    orElse f.description "No description provided.", ""] ++
  linesFor f.snippet (fun t => ["```", t, "```", ""]) ++
  linesFor f.suggestedFix (fun t => ["**Suggested fix:**", "", t, ""]) ++
  linesFor f.explanation (fun t => [s!"_Why it matters:_ {t}", ""]) ++
  linesFor f.resources (fun t => [s!"Reference: {t}", ""])

def numberedLines : Nat → List Finding → List String
  | _, [] => []
  | number, f :: rest => findingLines number f ++ numberedLines (number + 1) rest

def headLines (r : Review) : List String :=
  [s!"# Code Review: {r.title}", "", s!"- **Status:** {r.status.name}",
    s!"- **Date:** {dateText r}", s!"- **Files analyzed:** {r.filesAnalyzed}",
    s!"- **Lines analyzed:** {r.linesAnalyzed}"] ++
  linesFor r.description (fun t => ["", t]) ++
  (r.score.elim [] scoreLines) ++ countLines r.issues ++ ["", "## Findings", ""]

def render (r : Review) : String :=
  if r.findings.isEmpty then
    "\n".intercalate (headLines r ++ ["- No issues found."]) ++ "\n"
  else "\n".intercalate (headLines r ++ numberedLines 1 (ordered r.findings))

end Markdown

end ReviewDesk.Report

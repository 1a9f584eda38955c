import ReviewDesk.Finding

/-!
Issues that the checks without a model report. Their impact follows from their severity.
-/
namespace ReviewDesk.Inspection

/-- A title that fits: a longer one ends in three dots. -/
def fitTitle (title : String) : String :=
  if Issue.titleLimit < title.length then
    String.ofList (title.toList.take (Issue.titleLimit - 3)) ++ "..."
  else title

/-- Fits the title of an issue and gives it its place and its impact. -/
def place (path : String) (line : Nat) (issue : Issue) : Issue :=
  { issue with
    title := fitTitle issue.title
    filePath := some path
    line := some line
    impact := some issue.severity.impact }

def complexityUrl : String := "https://en.wikipedia.org/wiki/Cyclomatic_complexity"
def responsibilityUrl : String :=
  "https://en.wikipedia.org/wiki/Single-responsibility_principle"
def inversionUrl : String := "https://en.wikipedia.org/wiki/Dependency_inversion_principle"
def hexagonalUrl : String := "https://alistair.cockburn.us/hexagonal-architecture/"
def strategyUrl : String := "https://refactoring.guru/design-patterns/strategy"
def builderUrl : String := "https://refactoring.guru/design-patterns/builder"

end ReviewDesk.Inspection

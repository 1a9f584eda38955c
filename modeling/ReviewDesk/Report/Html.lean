import ReviewDesk.Report.Markdown

/-!
A review as an HTML page. The page is a list of pieces; everything that comes from the review is
text, and text is escaped when the page is written.
-/
namespace ReviewDesk.Report.Html

/-- A piece of a page: markup as it stands, or text to be escaped. -/
inductive Piece where
  | markup (s : String)
  | text (s : String)
  deriving Repr, DecidableEq

def escapeChar : Char → String
  | '&' => "&amp;"
  | '<' => "&lt;"
  | '>' => "&gt;"
  | '"' => "&quot;"
  | '\'' => "&#x27;"
  | c => String.singleton c

def escape (s : String) : String := String.join (s.toList.map escapeChar)

def Piece.write : Piece → String
  | markup s => s
  | text s => escape s

/-- A line of a page. -/
abbrev Line := List Piece

def color : Severity → String
  | .critical => "#b91c1c"
  | .high => "#c2410c"
  | .medium => "#a16207"
  | .low => "#15803d"
  | .info => "#1d4ed8"

def styleSheet : String :=
  "<style>body\x7bfont-family:sans-serif;max-width:960px;margin:2rem auto;\x7d" ++
  "pre\x7bbackground:#f4f4f5;padding:1rem;overflow-x:auto;\x7d" ++
  ".finding\x7bborder-left:4px solid;padding-left:1rem;margin-bottom:1.5rem;\x7d</style>"

def number (n : Int) : Piece := .text (toString n)

def headLines (r : Review) : List Line :=
  [[.markup "<!DOCTYPE html>"], [.markup "<html lang=\"en\">"], [.markup "<head>"],
    [.markup "<meta charset=\"utf-8\">"],
    [.markup "<title>Code Review: ", .text r.title, .markup "</title>"], [.markup styleSheet],
    [.markup "</head>"], [.markup "<body>"],
    [.markup "<h1>Code Review: ", .text r.title, .markup "</h1>"],
    [.markup "<p>Status: ", .text r.status.name, .markup " | Date: ", .text (dateText r),
      .markup " | Files: ", number r.filesAnalyzed, .markup " | Lines: ", number r.linesAnalyzed,
      .markup "</p>"]]

def scoreRow (area : String) (n : Int) : Line :=
  [.markup "<tr><td>", .markup area, .markup "</td><td>", number n, .markup "</td></tr>"]

def scoreLines (s : Score) : List Line :=
  [[.markup "<h2>Quality Score</h2>"],
    [.markup "<p><strong>", number s.overall, .markup "/100 (Grade ", .text s.grade,
      .markup ")</strong></p>"],
    [.markup "<table>"], scoreRow "Security" s.parts.security,
    scoreRow "Performance" s.parts.performance,
    scoreRow "Maintainability" s.parts.maintainability,
    scoreRow "Best Practices" s.parts.bestPractices,
    scoreRow "Test Coverage" s.parts.testCoverage, [.markup "</table>"]]

/-- The lines that a text brings with it, if there is one. -/
def linesFor (text : Option String) (write : String → List Line) : List Line :=
  match text with
  | some t => if t.isEmpty then [] else write t
  | none => []

def codeLine (code : String) : Line :=
  [.markup "<pre><code>", .text code, .markup "</code></pre>"]

def findingLines (f : Finding) : List Line :=
  let color := color f.severity
  [[.markup "<div class=\"finding\" style=\"border-color:", .markup color, .markup "\">"],
    [.markup "<h3>", .text f.title, .markup "</h3>"],
    [.markup "<p><span style=\"color:", .markup color, .markup "\">", .markup f.severity.name,
      .markup "</span> ", .markup f.category.name, .markup " at <code>", .text f.location,
      .markup "</code>", .markup (if f.isResolved then " (resolved)" else ""), .markup "</p>"],
    [.markup "<p>", .text f.description, .markup "</p>"]] ++
  linesFor f.snippet (fun t => [codeLine t]) ++
  linesFor f.suggestedFix (fun t => [[.markup "<h4>Suggested fix</h4>"], codeLine t]) ++
  linesFor f.explanation (fun t => [[.markup "<p><em>", .text t, .markup "</em></p>"]]) ++
  [[.markup "</div>"]]

def page (r : Review) : List Line :=
  headLines r ++ r.score.elim [] scoreLines ++
  [[.markup "<h2>Findings (", number r.findings.length, .markup ")</h2>"]] ++
  (if r.findings.isEmpty then [[.markup "<p>No issues found.</p>"]] else []) ++
  (ordered r.findings).flatMap findingLines ++ [[.markup "</body>"], [.markup "</html>"]]

def writeLine (line : Line) : String := String.join (line.map Piece.write)

def render (r : Review) : String := String.join ((page r).map fun l => writeLine l ++ "\n")

end ReviewDesk.Report.Html

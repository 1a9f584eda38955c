import ReviewDesk.Model.Language
import ReviewDesk.Report.Markdown

/-!
A text that asks an assistant to fix the findings of a review. Findings are grouped by severity and,
inside a group, ordered by the importance of their category.
-/
namespace ReviewDesk.FixingPrompt

def instructions : String :=
  "Copy this prompt and paste it into Claude AI or another AI assistant to fix all the issues in " ++
    "your code."

def severityLabel : Severity → String
  | .critical => "Must fix immediately - security/data loss risks"
  | .high => "Should fix before production"
  | .medium => "Important improvements"
  | .low => "Nice to have"
  | .info => "Suggestions"

/-- The rank of a category inside a severity; 1 comes first. -/
def importance : Category → Nat
  | .securityVulnerability => 1
  | .bug => 2
  | .performance => 3
  | .architecture => 4
  | .errorHandling => 5
  | .database => 6
  | .testing => 7
  | .codeSmell => 8
  | .bestPractice => 9
  | .apiDesign => 10
  | .configuration => 11
  | .dependency => 12
  | .documentation => 13
  | .naming => 14
  | .duplication => 15
  | .designPattern => 16

/-- What to do about a finding: a heading and steps. -/
def actions : Category → String × List String
  | .securityVulnerability => ("SECURITY FIX REQUIRED",
    ["Implement proper security controls immediately",
      "Validate all inputs and sanitize outputs",
      "Use parameterized queries for database operations",
      "Apply proper authentication and authorization checks"])
  | .bug => ("BUG FIX REQUIRED",
    ["Analyze the root cause of the issue",
      "Implement a fix that handles edge cases",
      "Add unit tests to prevent regression",
      "Verify the fix doesn't break existing functionality"])
  | .performance => ("PERFORMANCE OPTIMIZATION REQUIRED",
    ["Profile the code to identify bottlenecks",
      "Use efficient algorithms and data structures",
      "Add caching where appropriate",
      "Optimize database queries (add indexes, avoid N+1)"])
  | .architecture => ("ARCHITECTURAL IMPROVEMENT REQUIRED",
    ["Refactor to follow SOLID principles",
      "Separate domain, application, and infrastructure concerns",
      "Use appropriate design patterns",
      "Keep coupling loose and cohesion high"])
  | .codeSmell => ("CODE REFACTORING REQUIRED",
    ["Simplify complex functions (reduce cyclomatic complexity)",
      "Extract reusable code into separate functions or classes",
      "Improve readability and maintainability",
      "Remove code duplication"])
  | .testing => ("TESTING IMPROVEMENT REQUIRED",
    ["Add focused unit tests",
      "Add integration tests for critical paths",
      "Raise coverage to 80%+",
      "Test edge cases and error scenarios"])
  | .errorHandling => ("ERROR HANDLING REQUIRED",
    ["Catch specific exceptions instead of broad ones",
      "Introduce domain exceptions for business failures",
      "Log errors with useful context",
      "Return meaningful error messages to users"])
  | .database => ("DATABASE OPTIMIZATION REQUIRED",
    ["Add indexes for frequent queries",
      "Use transactions appropriately",
      "Use connection pooling",
      "Select only the columns you need"])
  | _ => ("FIX REQUIRED",
    ["Address the issue as described above",
      "Follow best practices for this type of problem",
      "Keep the fix maintainable and documented"])

def actionText (c : Category) : String :=
  let (heading, steps) := actions c
  "\n".intercalate (s!"**{heading}:**" :: steps.map ("- " ++ ·))

/-- The lines that a text brings with it, if it says something. -/
def linesFor (text : Option String) (write : String → List String) : List String :=
  match text with
  | some t => if Text.isBlankText t then [] else write t
  | none => []

/-- The path of the file, if it is known. -/
def pathOf (f : Finding) : Option String := f.filePath.filter (!·.isEmpty)

def findingLines (number : Nat) (f : Finding) : List String :=
  let place := "`" ++ (pathOf f).getD "unknown" ++ "`" ++ f.line.elim "" fun n => s!" (Line {n})"
  let language := detectLanguage ((pathOf f).getD "")
  let fence := if language == "text" then "" else language
  [s!"#### Issue #{number}: {f.title}", "", s!"**Category:** {f.category.name}",
    s!"**Severity:** {f.severity.name}", s!"**File:** {place}", "", "**Problem Description:**",
    Report.orElse f.description "No description provided.", ""] ++
  linesFor f.snippet (fun t => ["**Current Code:**", s!"```{fence}", t, "```", ""]) ++
  linesFor f.suggestedFix (fun t => ["**Suggested Solution:**", t, ""]) ++
  f.impact.elim [] (fun n => ["**Impact Level:**", s!"Impact Score: {n}/10", ""]) ++
  ["**Action Required:**", actionText f.category, "", "---", ""]

def numberedLines : Nat → List Finding → List String
  | _, [] => []
  | number, f :: rest => findingLines number f ++ numberedLines (number + 1) rest

/-- The findings of one severity, the most important categories first. -/
def group (r : Review) (s : Severity) : List Finding :=
  (r.withSeverity s).mergeSort fun a b => decide (importance a.category ≤ importance b.category)

/-- The groups one after the other, numbered through from `number` on. -/
def groups (r : Review) : Nat → List Severity → List String
  | _, [] => []
  | number, s :: rest =>
    let findings := group r s
    (if findings.isEmpty then []
      else [s!"### {s.name} Priority Issues", ""] ++ numberedLines number findings) ++
    groups r (number + findings.length) rest

def scoreLines (s : Score) : List String :=
  ["### Quality Metrics", s!"- Security: {s.parts.security}/100",
    s!"- Performance: {s.parts.performance}/100",
    s!"- Maintainability: {s.parts.maintainability}/100",
    s!"- Best Practices: {s.parts.bestPractices}/100",
    s!"- Test Coverage: {s.parts.testCoverage}/100", ""]

def headLines (r : Review) : List String :=
  let overall := r.score.elim 0 (·.overall)
  ["# Code Review Issue Resolution Request", "", "## Project Context",
    s!"**Review ID:** {r.id.text}", s!"**Project:** {r.title}",
    s!"**Files Analyzed:** {r.filesAnalyzed} files ({r.linesAnalyzed} lines of code)",
    s!"**Overall Quality Score:** {overall}/100", ""] ++
  r.score.elim [] scoreLines ++
  ["## Issues Summary", s!"**Total Issues:** {r.findings.length}", "", "**By Severity:**"] ++
  (Issue.severityCounts r.issues).map fun (s, n) => s!"- {s.name}: {n} ({severityLabel s})"

def taskLines : List String :=
  ["", "---", "", "## YOUR TASK", "",
    "You are an expert software engineer specializing in code quality and security. Fix ALL the " ++
      "issues listed below in the codebase, following these principles:",
    "", "### Core Principles:",
    "1. **Fix, Don't Just Comment** - Implement actual solutions, not TODO comments",
    "2. **Maintain Functionality** - Keep all existing features working",
    "3. **Follow Best Practices** - Apply industry-standard patterns and conventions",
    "4. **Prioritize by Severity** - Fix CRITICAL and HIGH severity issues first",
    "5. **Document Changes** - Explain complex fixes briefly",
    "6. **Test Your Changes** - Make sure fixes don't introduce new bugs",
    "7. **Preserve Code Style** - Match existing formatting and naming conventions",
    "", "---", "", "## DETAILED ISSUES TO FIX", ""]

def finalLines : List String :=
  ["## FINAL INSTRUCTIONS", "", "### Deliverables:",
    "1. **Complete Fixed Codebase** - All issues resolved with working code",
    "2. **Change Summary** - Brief description of each fix applied",
    "3. **Verification Steps** - How to verify the fixes",
    "4. **Testing Notes** - New or updated tests",
    "", "### Quality Checklist:", "- [ ] All CRITICAL issues fixed",
    "- [ ] All HIGH priority issues fixed", "- [ ] Code builds without errors",
    "- [ ] No new bugs introduced", "- [ ] Tests pass",
    "- [ ] Security vulnerabilities eliminated", "- [ ] Code follows project conventions",
    "", "### Success Criteria:", "1. The code quality score rises to 80+/100",
    "2. All security vulnerabilities are eliminated",
    "3. The application runs without errors", ""]

def render (r : Review) : String :=
  "\n".intercalate (headLines r ++ taskLines ++ groups r 1 Severity.all ++ finalLines)

end ReviewDesk.FixingPrompt

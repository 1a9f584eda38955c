/-!
The texts that are put to the review model.
-/
namespace ReviewDesk.Model

/-- Lines, each ended by a line break. -/
def lines (ls : List String) : String := "\n".intercalate ls ++ "\n"

/-- The instructions that go with every request to review a file. -/
def systemPrompt : String :=
  lines ["You are a senior software architect conducting a hiring-grade code review.",
    "",
    "The review is read by employers and senior engineers deciding whether the author",
    "is ready for a professional role, so report real production issues and skip",
    "style preferences unless they point at a deeper design problem.",
    "",
    "Priorities, highest first: security, correctness, performance, maintainability,",
    "readability. Only report findings you are confident about; false positives damage",
    "the credibility of the whole review.",
    "",
    "Every finding explains why it matters, its business impact, and a concrete fix.",
    "Cite authoritative sources where possible (OWASP, language and framework docs,",
    "Effective Java, Clean Code, Martin Fowler).",
    "",
    "Respond with a JSON array only. Report at most 10 findings per file."]

/-- The request to review one file. -/
def filePrompt (path language code categories : String) : String :=
  lines ["Review the file below.",
    "",
    "Evaluate in this order:",
    "1. Security: injection, broken authentication or authorization, secrets in code,",
    "   sensitive data in logs or responses, missing input validation, unsafe",
    "   deserialization, permissive CORS.",
    "2. Correctness: null or None handling, race conditions, resource leaks, missing",
    "   transactions, swallowed exceptions, unhandled edge cases.",
    "3. Performance: N+1 queries, blocking calls in async code, quadratic loops,",
    "   unbounded caches, long transactions around network calls.",
    "4. Architecture: god classes, anemic domain models, layer violations, tight",
    "   coupling, entities exposed directly through APIs.",
    "5. Metrics: cyclomatic complexity above 10, methods longer than 50 lines, more",
    "   than 5 parameters, nesting deeper than 3 levels.",
    "6. Testing: untestable code, sleeps in tests, shared state, mocking value objects.",
    "7. Hiring red flags: commented-out code, magic numbers, copy-paste duplication,",
    "   print debugging instead of logging, misleading names.",
    "",
    "File: " ++ path,
    "Language: " ++ language,
    "",
    "Code:",
    "```" ++ language,
    code,
    "```",
    "",
    "Return a JSON array where each element has:",
    "  \"title\": specific issue in 5-10 words,",
    "  \"description\": what is wrong and why it matters,",
    "  \"severity\": one of CRITICAL, HIGH, MEDIUM, LOW, INFO,",
    "  \"category\": one of " ++ categories ++ ",",
    "  \"lineNumber\": integer line number,",
    "  \"endLineNumber\": optional integer,",
    "  \"codeSnippet\": the problematic code,",
    "  \"suggestedFix\": complete corrected code,",
    "  \"explanation\": educational explanation including business impact,",
    "  \"resourcesUrl\": link to an authoritative source,",
    "  \"metricsViolated\": list of strings such as \"Cyclomatic Complexity: 15 (threshold: 10)\"",
    "",
    "Return only the 10 most important findings, or [] when the file is clean."]

/-- The request to sum up findings, which are given as JSON text. -/
def summaryPrompt (findings : String) : String :=
  lines ["Write a summary of this code review for the author.",
    "",
    "Findings (JSON):",
    findings,
    "",
    "Include an overall assessment, the top 3 critical issues, the top 3",
    "improvements, positive aspects, and recommended next steps. Format as markdown."]

/-- The summary of a review without findings. -/
def noFindingsSummary : String :=
  "## Overall Assessment\n\nNo issues were found in the reviewed code. Keep following the same " ++
    "practices and consider adding tests for edge cases as the code grows."

end ReviewDesk.Model

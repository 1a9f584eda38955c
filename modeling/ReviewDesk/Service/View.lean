import ReviewDesk.Desk.Administration
import ReviewDesk.Desk.Reviewing

/-!
Bodies of answers, with names in mixed case.
-/
namespace ReviewDesk.Service

def accountJson (a : Account) : Json :=
  .obj [("id", .str a.id.text), ("username", .str a.username), ("email", .str a.email),
    ("fullName", Json.ofText a.fullName), ("avatarUrl", Json.ofText a.avatarUrl),
    ("githubUsername", Json.ofText a.githubUsername), ("githubConnected", .bool a.hasGitHub),
    ("role", .str a.role.name), ("subscriptionTier", .str a.tier.name),
    ("isActive", .bool a.isActive), ("emailVerified", .bool a.emailVerified),
    ("isSpecialUser", .bool a.isSpecial), ("usageLimit", Json.ofOption .int a.usageLimit),
    ("reviewsCount", .int a.reviewsCount), ("totalFilesReviewed", .int a.filesReviewed),
    ("lastLoginAt", Json.ofOption Moment.json a.lastLoginAt), ("createdAt", a.createdAt.json),
    ("updatedAt", a.updatedAt.json)]

/-- A token and whom it is for. -/
def sessionJson (a : Account) (token : String) : Json :=
  .obj [("token", .str token), ("type", .str "Bearer"), ("userId", .str a.id.text),
    ("username", .str a.username), ("email", .str a.email), ("role", .str a.role.name),
    ("subscriptionTier", .str a.tier.name), ("githubUsername", Json.ofText a.githubUsername),
    ("githubConnected", .bool a.hasGitHub)]

def censusJson (c : Census) : Json :=
  .obj [("totalUsers", Json.ofNat c.accounts), ("activeUsers", Json.ofNat c.active),
    ("specialUsers", Json.ofNat c.special), ("totalReviews", Json.ofNat c.reviews),
    ("reviewsToday", Json.ofNat c.reviewsToday), ("reviewsThisWeek", Json.ofNat c.reviewsThisWeek),
    ("reviewsThisMonth", Json.ofNat c.reviewsThisMonth)]

def scoreJson (s : Score) : Json :=
  .obj [("overallScore", .int s.overall), ("securityScore", .int s.parts.security),
    ("performanceScore", .int s.parts.performance),
    ("maintainabilityScore", .int s.parts.maintainability),
    ("bestPracticesScore", .int s.parts.bestPractices),
    ("testCoverageScore", .int s.parts.testCoverage), ("grade", .str s.grade)]

def findingJson (f : Finding) : Json :=
  .obj [("id", .str f.id.text), ("title", .str f.title), ("description", .str f.description),
    ("severity", .str f.severity.name), ("category", .str f.category.name),
    ("filePath", Json.ofText f.filePath), ("lineNumber", Json.ofOption Json.ofNat f.line),
    ("endLineNumber", Json.ofOption Json.ofNat f.endLine),
    ("codeSnippet", Json.ofText f.snippet), ("suggestedFix", Json.ofText f.suggestedFix),
    ("explanation", Json.ofText f.explanation), ("resourcesUrl", Json.ofText f.resources),
    ("impactScore", Json.ofOption Json.ofNat f.impact),
    ("metricsViolated", .arr (f.metrics.map .str)), ("isResolved", .bool f.isResolved)]

def reviewJson (reviewer : Option String) (r : Review) : Json :=
  .obj [("id", .str r.id.text), ("title", .str r.title),
    ("description", Json.ofText r.description), ("status", .str r.status.name),
    ("reviewerId", .str r.reviewerId.text), ("reviewerName", Json.ofText reviewer),
    ("qualityScore", Json.ofOption scoreJson r.score),
    ("findings", .arr (r.findings.map findingJson)),
    ("totalFilesAnalyzed", Json.ofNat r.filesAnalyzed),
    ("totalLinesAnalyzed", Json.ofNat r.linesAnalyzed),
    ("analysisDurationMs", Json.ofOption .int r.durationMs),
    ("aiModelUsed", Json.ofText r.modelUsed), ("tokensUsed", Json.ofOption .int r.tokensUsed),
    ("costUsd", Json.ofOption .real r.costUsd), ("createdAt", r.createdAt.json),
    ("startedAt", Json.ofOption Moment.json r.startedAt),
    ("completedAt", Json.ofOption Moment.json r.completedAt)]

def statisticsJson (s : Statistics) : Json :=
  .obj [("totalReviews", Json.ofNat s.reviews), ("completedReviews", Json.ofNat s.completed),
    ("averageQualityScore", .real s.averageScore), ("totalFindings", Json.ofNat s.findings),
    ("criticalIssues", Json.ofNat s.critical)]

def hiringJson (i : Hiring.Impact) : Json :=
  .obj [("hireability", .obj [("level", .str i.hireability.level),
      ("description", .str i.hireability.description),
      ("percentile", Json.ofNat i.hireability.percentile),
      ("salaryRange", .str i.hireability.salaryRange)]),
    ("improvement", .obj [("time", .str i.improvement.time), ("effort", .str i.improvement.effort)]),
    ("readiness", .obj [("status", .str i.readiness.status),
      ("message", .str i.readiness.message)]),
    ("signals", .arr (i.signals.map fun s => .obj [("issue", .str s.issue),
      ("impact", .str s.impact), ("status", .str s.status), ("description", .str s.description)]))]

def insightsJson (i : Insights) : Json :=
  .obj [("reviewId", .str i.reviewId.text),
    ("severityCounts", .obj (i.severities.map fun (s, n) => (s.name, Json.ofNat n))),
    ("categoryCounts", .obj (i.categories.map fun (c, n) => (c.name, Json.ofNat n))),
    ("unresolvedCount", Json.ofNat i.unresolved), ("securityFindings", Json.ofNat i.security),
    ("qualityScore", Json.ofOption scoreJson i.score), ("hiringImpact", hiringJson i.hiring)]

def fixingRequestJson (f : FixingRequest) : Json :=
  .obj [("prompt", .str f.prompt), ("totalFindings", Json.ofNat f.findings),
    ("criticalCount", Json.ofNat f.critical), ("highCount", Json.ofNat f.high),
    ("mediumCount", Json.ofNat f.medium), ("lowCount", Json.ofNat f.low),
    ("reviewId", .str f.reviewId.text), ("generatedAt", f.generatedAt.json),
    ("instructions", .str f.instructions)]

def repositoryJson (r : GitHub.Repository) : Json :=
  .obj [("id", .int r.id), ("name", .str r.name), ("fullName", .str r.fullName),
    ("description", Json.ofText r.description), ("url", .str r.url),
    ("language", Json.ofText r.language), ("defaultBranch", .str r.defaultBranch),
    ("isPrivate", .bool r.isPrivate)]

def filesJson (files : Files) : Json := .obj (files.map fun f => (f.1, .str f.2))

end ReviewDesk.Service

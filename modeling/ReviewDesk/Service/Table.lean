import ReviewDesk.Desk.Administration
import ReviewDesk.Desk.GitHubAccess
import ReviewDesk.Desk.Reviewing
import ReviewDesk.Service.Body
import ReviewDesk.Service.Route
import ReviewDesk.Service.View

/-!
The routes of the desk.
-/
namespace ReviewDesk.Service

variable {σ : Type}

def healthRoute : Route σ where
  method := "GET"
  path := "/health"
  handler := .visitor fun _ => .good (return .ofJson (.obj [("status", .str "ok")]))

def accountAnswer (a : Account) (status : Nat := 200) : Answer := .ofJson (accountJson a) status

def accountsAnswer (as : List Account) : Answer := .ofJson (.arr (as.map accountJson))

def signInRoutes (settings : Settings) : List (Route σ) := [
  { method := "POST"
    path := "/auth/register"
    takesBody := true
    handler := .visitor fun i => (i.record Registration.read).map fun r => do
      let a ← Desk.register settings r.username r.email r.password r.fullName
      return .ofJson (sessionJson a (← Desk.issueToken settings a)) 201 },
  { method := "POST"
    path := "/auth/login"
    takesBody := true
    handler := .visitor fun i => (i.record Credentials.read).map fun c => do
      let (a, token) ← Desk.login settings c.username c.password
      return .ofJson (sessionJson a token) },
  { method := "GET"
    path := "/auth/me"
    handler := .member fun _ => .good fun caller => return accountAnswer caller }]

def adminRoutes (settings : Settings) : List (Route σ) := [
  { method := "GET"
    path := "/admin/users"
    handler := .admin fun _ => .good do return accountsAnswer (← Desk.look Store.allAccounts) },
  { method := "GET"
    path := "/admin/users/special"
    handler := .admin fun _ => .good do return accountsAnswer (← Desk.look Store.specialAccounts) },
  { method := "POST"
    path := "/admin/users/special"
    takesBody := true
    handler := .admin fun i => (i.record SpecialRegistration.read).map fun r => do
      let a ← Desk.createSpecial settings r.username r.email r.password r.fullName r.usageLimit
      return accountAnswer a 201 },
  { method := "GET"
    path := "/admin/users/{user_id}"
    handler := .admin fun i => (i.identifier "user_id").map fun id => do
      return accountAnswer (← Desk.accountOf id) },
  { method := "PUT"
    path := "/admin/users/{user_id}"
    takesBody := true
    handler := .admin fun i =>
      (fun id update => do return accountAnswer (← Desk.updateAccount id update))
        <$> i.identifier "user_id" <*> i.record readUpdate },
  { method := "DELETE"
    path := "/admin/users/{user_id}"
    handler := .admin fun i => (i.identifier "user_id").map fun id => do
      Desk.deleteAccount id
      return .done },
  { method := "POST"
    path := "/admin/users/{user_id}/reset-usage"
    handler := .admin fun i => (i.identifier "user_id").map fun id => do
      return accountAnswer (← Desk.resetUsage id) },
  { method := "GET"
    path := "/admin/stats"
    handler := .admin fun _ => .good do return .ofJson (censusJson (← Desk.takeCensus)) }]

def viewReview (r : Review) : Task σ Json := do
  return reviewJson (← Desk.reviewerName r) r

def reviewsAnswer (rs : List Review) : Task σ Answer := do
  return .ofJson (.arr (← rs.mapM viewReview))

/-- Recent reviews are at most fifty, and ten if nothing is said. -/
def recentLimit (i : Input) : Checked Int :=
  Field.optional i.query "limit" 10 (Field.integerBetween 1 50)

/-- A route for a review of the caller. -/
def reviewRoute (method path : String) (act : Account → Uuid → Task σ Answer) : Route σ where
  method
  path := "/reviews/{review_id}" ++ path
  handler := .member fun i => (i.identifier "review_id").map fun id caller => act caller id

def downloadAnswer (d : Download) : Answer where
  content := .text d.mediaType d.content
  headers := [("content-disposition", s!"attachment; filename=\"{d.fileName}\"")]

def reviewRoutes (m : Model σ) : List (Route σ) := [
  { method := "POST"
    path := "/reviews"
    takesBody := true
    handler := .member fun i => (i.record ReviewOrder.read).map fun order caller => do
      let r ← Desk.createReview m caller order.title order.description order.files
      return .ofJson (← viewReview r) 201 },
  { method := "GET"
    path := "/reviews"
    handler := .member fun _ => .good fun caller => do
      reviewsAnswer (← Desk.reviewsFor caller none) },
  { method := "GET"
    path := "/reviews/recent"
    handler := .member fun i => (recentLimit i).map fun limit caller => do
      reviewsAnswer (← Desk.reviewsFor caller (some limit)) },
  { method := "GET"
    path := "/reviews/stats"
    handler := .member fun _ => .good fun caller => do
      return .ofJson (statisticsJson (← Desk.statistics caller)) },
  reviewRoute "GET" "" fun caller id => do
    return .ofJson (← viewReview (← Desk.reviewFor caller id)),
  reviewRoute "GET" "/summary" fun caller id => do
    return .ofText (← Desk.summary m caller id),
  reviewRoute "GET" "/insights" fun caller id => do
    return .ofJson (insightsJson (← Desk.insights caller id)),
  { method := "PUT"
    path := "/reviews/{review_id}/findings/{finding_id}/resolve"
    handler := .member fun i =>
      (fun review finding caller => do
        return .ofJson (findingJson (← Desk.resolveFinding caller review finding)))
        <$> i.identifier "review_id" <*> i.identifier "finding_id" },
  reviewRoute "DELETE" "" fun caller id => do
    Desk.deleteReview caller id
    return .done,
  { method := "GET"
    path := "/reviews/{review_id}/download/{report_format}"
    handler := .member fun i =>
      (fun id format caller => do return downloadAnswer (← Desk.download caller id format))
        <$> i.identifier "review_id" <*> i.word "report_format" },
  reviewRoute "GET" "/generate-prompt" fun caller id => do
    return .ofJson (fixingRequestJson (← Desk.fixingRequest caller id))]

/-- The code of a sign-in at GitHub. -/
def codeOf (i : Input) : Checked String := Field.required i.query "code" Field.text

/-- A route for a repository. -/
def repositoryRoute (method path : String) (act : Account → String → String → Task σ Answer) :
    Route σ where
  method
  path := "/github/repos/{owner}/{repo}" ++ path
  handler := .member fun i =>
    (fun owner repo caller => act caller owner repo) <$> i.word "owner" <*> i.word "repo"

def gitHubRoutes (settings : Settings) : List (Route σ) := [
  { method := "POST"
    path := "/github/oauth/callback"
    handler := .visitor fun i => (codeOf i).map fun code => do
      let (a, token) ← Desk.gitHubLogin settings code
      return .ofJson (sessionJson a token) },
  { method := "POST"
    path := "/github/oauth/link"
    handler := .member fun i => (codeOf i).map fun code caller => do
      return accountAnswer (← Desk.linkGitHub settings caller code) },
  { method := "GET"
    path := "/github/repositories"
    handler := .member fun _ => .good fun caller => do
      return .ofJson (.arr ((← Desk.repositories caller).map repositoryJson)) },
  repositoryRoute "GET" "" fun caller owner repo => do
    return .ofJson (repositoryJson (← Desk.repository caller owner repo)),
  repositoryRoute "POST" "/analyze" fun caller owner repo => do
    return .ofJson (filesJson (← Desk.sourceFiles {} caller owner repo)),
  { method := "POST"
    path := "/github/repos/{owner}/{repo}/files"
    takesBody := true
    handler := .member fun i =>
      (fun owner repo order caller => do
        return .ofJson (filesJson (← Desk.namedFiles caller owner repo order.files)))
        <$> i.word "owner" <*> i.word "repo" <*> i.record PathOrder.read },
  { method := "DELETE"
    path := "/github/disconnect"
    handler := .member fun _ => .good fun caller => do
      let _ ← Desk.disconnectGitHub caller
      return .done }]

/-- All routes, below the path that the settings name. -/
def routes (m : Model σ) (settings : Settings) : List (Route σ) :=
  (healthRoute :: signInRoutes settings ++ adminRoutes settings ++ reviewRoutes m ++
    gitHubRoutes settings).map (Route.below settings.apiPath)

end ReviewDesk.Service

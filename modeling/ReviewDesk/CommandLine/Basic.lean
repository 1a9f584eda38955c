import ReviewDesk.CommandLine.Session
import ReviewDesk.Desk.Reviewing
import ReviewDesk.Desk.SignIn
import ReviewDesk.Model.Remote
import ReviewDesk.Service.View

/-!
What the commands do.
-/
namespace ReviewDesk.CommandLine

open Run

def serve (server : Server) : Run Unit :=
  modify fun s => { s with served := s.served ++ [server] }

/-- Makes the account of an administrator. -/
def createAdmin (username email password : String) : Run Unit := do
  match Settings.load (← get).environment [] with
  | .error fault => giveUp s!"Configuration error: {fault.message}"
  | .ok settings =>
    let task := Desk.createAccount settings username email password none fun a =>
      { a with role := .admin }
    match ← ask task with
    | .ok a => say s!"Created admin '{a.username}' ({a.id.text})."
    | .error failure =>
      if failure.verdict?.isSome then giveUp s!"Could not create admin: {failure.message}"
      else stop (.crash (.failure failure))

def reportText (kind : ReportKind) (r : Review) : String :=
  match kind with
  | .json => Json.write .document (Service.reviewJson none r)
  | .markdown => Report.render r .markdown

/-- Reviews files of the workspace; the analysis of a file may fail, and the review goes on. -/
def reviewFiles (o : ReviewOptions) : Run (Review × Usage) := do
  let s ← get
  match s.environment.modelKey? with
  | none => giveUp s!"Review failed: {missingModelKey}"
  | some key =>
    let model : Model.Remote := { name := o.model, key }
    match ← ask (Desk.reviewLocally model.model o.title (s.workspace.sources o.paths)) with
    | .ok result => return result
    | .error failure =>
      if failure.verdict?.isSome || failure matches .model (.refused _ _) then
        giveUp s!"Review failed: {failure.message}"
      else stop (.crash (.failure failure))

/-- Shows a report or writes it to a file. -/
def deliver (o : ReviewOptions) (report : String) : Run Unit := do
  match o.output with
  | none => say report
  | some path =>
    let s ← get
    match s.workspace.write path (Text.utf8Bytes report) with
    | .error fault => stop (.crash (.writing fault))
    | .ok workspace =>
      set { s with workspace }
      say s!"Wrote {o.kind.name} report to {SourcePath.normal path}."

def review (o : ReviewOptions) : Run Unit := do
  let (r, usage) ← reviewFiles o
  deliver o (reportText o.kind r)
  if o.verbose then usage.warnings.forM fun warning => note s!"warning: {warning}"
  let cost := Decimal.fixed 4 usage.costUsd
  note (s!"{r.findings.length} findings, {usage.calls} model calls, " ++
    s!"{usage.tokens} tokens, ${cost}")

/-- Ends a check that a fault between the desk and GitHub broke off. -/
def failCheck {α : Type} (fault : GitHub.Fault) : Run α :=
  match fault.failedRequest?, fault with
  | some (code, endpoint), _ =>
    giveUp s!"GitHub auth check failed: status={code} endpoint={endpoint}."
  | none, .unreachable message => giveUp s!"GitHub auth check failed: network error ({message})."
  | none, .noTransport _ => giveUp ("GitHub auth check failed: proxy transport dependency is " ++
      "missing. Try `devmentor auth-check --no-trust-env`, or install `httpx[socks]`.")
  | none, _ => stop (.crash (.failure (.github fault)))

/-- Asks GitHub as part of a check. -/
def inquire {α : Type} (call : GitHub.Call α) : Run α := do
  match ← askGitHub call with
  | .ok a => return a
  | .error fault => failCheck fault

/-- Checks that GitHub takes the token, and perhaps that a repository is within reach. -/
def authCheck (repository : Option (String × String)) : Run Unit := do
  let environment := (← get).environment
  if (environment.get? "GITHUB_OAUTH_CLIENT_ID").isSome &&
      (environment.get? "GITHUB_OAUTH_CLIENT_SECRET").isSome then
    say "GitHub OAuth client is configured."
  else
    say ("GitHub OAuth client is not configured " ++
      "(set GITHUB_OAUTH_CLIENT_ID and GITHUB_OAUTH_CLIENT_SECRET).")
  match environment.githubToken? with
  | none => giveUp s!"GitHub auth check failed: {missingGithubToken}"
  | some (token, source) =>
    say s!"Token detected in {source}."
    let client := GitHub.Client.ofToken token
    let profile ← inquire client.profile
    say s!"Authenticated as GitHub user '{profile.login}'."
    if let some (owner, repo) := repository then
      let r ← inquire (client.repository owner repo)
      say (s!"Repository access check passed for {r.fullName} " ++
        s!"(default branch {r.defaultBranch}).")
    say "GitHub token setup is valid."

/-- Carries out a command. -/
def Command.perform : Command → Run Unit
  | .serve server => CommandLine.serve server
  | .createAdmin username email (some password) => CommandLine.createAdmin username email password
  | .createAdmin username email none => do
    CommandLine.createAdmin username email (← typeHidden "Password" (← get).typed)
  | .review options => CommandLine.review options
  | .authCheck repository => CommandLine.authCheck repository

/-- How a command ended and what it showed. -/
structure Outcome where
  ending : Ending
  out : String
  err : String
  deriving Repr, DecidableEq

/-- Runs the program with some arguments. Arguments that are not understood end it with 2. -/
def run (args : List String) : StateM Session Outcome := fun s =>
  let s := { s with out := "", err := "" }
  match Command.read s.workspace args with
  | none => (⟨.exit 2, "", ""⟩, s)
  | some command =>
    let (result, s) := command.perform.run s
    let ending := match result with
      | .ok () => .exit 0
      | .error ending => ending
    (⟨ending, s.out, s.err⟩, s)

end ReviewDesk.CommandLine

import ReviewDesk.Desk.SignIn
import ReviewDesk.Files

/-!
Signing in with GitHub, linking an account to it, and files of repositories.
-/
namespace ReviewDesk.Desk

variable {σ : Type}

/-- The token and the profile behind a code that a sign-in gave. -/
def exchangeCode (settings : Settings) (code : String) : Task σ (String × GitHub.Profile) := do
  match settings.github? with
  | none => fail .notConfigured
  | some (id, secret) =>
    if Text.isBlankText code then fail .missingCode
    else
      let token ← askGitHub (GitHub.Client.exchangeCode {} id secret code)
      return (token, ← askGitHub (GitHub.Client.ofToken token).profile)

/-- The name to try after `k` names that were taken: the login, cut so that the number fits. -/
def candidate (login : String) (k : Nat) : String :=
  if k == 0 then .ofList (login.toList.take Account.usernameLimit)
  else
    let tail := toString k
    .ofList (firstItems (Account.usernameLimit - tail.length) login.toList) ++ tail

/-- The first candidate from number `k` on that is not taken. -/
def freeCandidate (taken : String → Except Store.Fault Bool) (login : String) :
    Nat → Nat → Except Store.Fault String
  | 0, k => .ok (candidate login k)
  | budget + 1, k => do
    if ← taken (candidate login k) then freeCandidate taken login budget (k + 1)
    else return candidate login k

/-- A name that no account has, unless a row under one of the names before it cannot be read. Of the
candidates with a number of some length all differ, so among twelve for every account there is a
free one. -/
def availableUsername (s : Store) (login : String) : Except Store.Fault String :=
  freeCandidate (fun name => (s.accountNamed name).map Option.isSome) login
    (12 * s.accounts.length + 12) 0

/-- The e-mail address of a profile, or one made of its login. -/
def profileEmail (p : GitHub.Profile) : String :=
  (p.email.filter (!·.isEmpty)).getD s!"{p.login}@github.com"

/-- A new account for a profile. -/
def accountOfProfile (p : GitHub.Profile) (token : String) : Task σ Account := do
  let email := profileEmail p
  if (← look (Store.accountWithEmail email)).isSome then fail (.emailOwned email)
  match availableUsername (← get).store p.login with
  | .error _ => fail (.unusableProfile p.login)
  | .ok username =>
    match Account.make (← freshId) (← clock) username email with
    | .bad _ => fail (.unusableProfile p.login)
    | .good account =>
      let account := { account with
        fullName := p.name, avatarUrl := p.avatarUrl, emailVerified := p.email.isSome }
      return account.connectGitHub p.id p.login token

/-- The account with what the profile says now. -/
def refreshed (p : GitHub.Profile) (token : String) (account : Account) : Account :=
  let account := account.updateGitHub p.login token
  match p.avatarUrl.filter (!·.isEmpty) with
  | some url => { account with avatarUrl := some url }
  | none => account

/-- Signs in with GitHub; the first time an account is made. -/
def gitHubLogin (settings : Settings) (code : String) : Task σ (Account × String) := do
  let (token, profile) ← exchangeCode settings code
  let account ← match ← look (Store.accountWithGitHub profile.id) with
    | none => accountOfProfile profile token
    | some account =>
      if account.isActive then pure (refreshed profile token account) else fail .disabled
  let account ← saveAccount (account.recordLogin (← clock))
  return (account, ← issueToken settings account)

/-- Links the caller's account to a GitHub identity that no other account has. -/
def linkGitHub (settings : Settings) (caller : Account) (code : String) : Task σ Account := do
  let (token, profile) ← exchangeCode settings code
  if (← look (Store.accountWithGitHub profile.id)).any (·.id != caller.id) then fail .profileOwned
  let account := caller.connectGitHub profile.id profile.login token
  saveAccount { account with avatarUrl := account.avatarUrl.or profile.avatarUrl }

def disconnectGitHub (caller : Account) : Task σ Account := saveAccount caller.disconnectGitHub

/-- Requests on behalf of the caller. -/
def clientFor (caller : Account) : Task σ GitHub.Client :=
  if caller.hasGitHub then return GitHub.Client.ofToken (caller.githubToken.getD "")
  else fail .notConnected

def repositories (caller : Account) : Task σ (List GitHub.Repository) := do
  let client ← clientFor caller
  askGitHub client.repositories

def repository (caller : Account) (owner repo : String) : Task σ GitHub.Repository := do
  let client ← clientFor caller
  askGitHub (client.repository owner repo)

/-- Fetches files one by one; those that are not there, or are no text, are left out. -/
def fetchAll (client : GitHub.Client) (owner repo : String) (ref : Option String) :
    List String → Files → Task σ Files
  | [], files => return files
  | path :: rest, files => do
    match ← askGitHub (client.fileText owner repo path ref) with
    | some text => fetchAll client owner repo ref rest (files.insert path text)
    | none => fetchAll client owner repo ref rest files

/-- The source files of the default branch, as many as the budget allows. -/
def sourceFiles (budget : Budget) (caller : Account) (owner repo : String)
    (suffixes : List String := reviewableSuffixes) : Task σ Files := do
  let client ← clientFor caller
  let repository ← askGitHub (client.repository owner repo)
  let branch := repository.defaultBranch
  let tree ← askGitHub (client.tree owner repo branch)
  let entries := tree.filesEnding suffixes
  let entries := if budget.repositoryFiles < entries.length then
    firstItems budget.repositoryFiles entries else entries
  fetchAll client owner repo (some branch) (entries.map (·.path)) []

/-- The named files. -/
def namedFiles (caller : Account) (owner repo : String) (paths : List String) : Task σ Files := do
  let client ← clientFor caller
  fetchAll client owner repo none paths []

end ReviewDesk.Desk

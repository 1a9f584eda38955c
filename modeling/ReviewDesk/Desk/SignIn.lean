import ReviewDesk.Desk.Basic
import ReviewDesk.Password

/-!
Accounts and the proof of who is asking: registration, passwords and bearer tokens.
-/
namespace ReviewDesk.Desk

variable {σ : Type}

/-- Neither the name nor the e-mail address belongs to an account yet. -/
def checkAvailable (username email : String) : Task σ Unit := do
  if (← look (Store.accountNamed username)).isSome then fail (.usernameTaken username)
  if (← look (Store.accountWithEmail email)).isSome then fail (.emailTaken email)

def hashPassword (settings : Settings) (password : String) : Task σ String := do
  let salt ← freshId
  match Password.hash? settings.passwordRounds.toNat salt password with
  | some hash => return hash
  | none => fail (.passwordTooLong Password.byteLimit)

/-- A new account that `finish` completes. -/
def addAccount (settings : Settings) (username email password : String)
    (fullName : Option String) (finish : Account → Account) : Task σ Account := do
  checkAvailable username email
  let hash ← hashPassword settings password
  let account ← checked (Account.make (← freshId) (← clock) username email)
  saveAccount (finish { account with passwordHash := some hash, fullName })

/-- A free account of somebody who registers. -/
def register (settings : Settings) (username email password : String)
    (fullName : Option String) : Task σ Account :=
  addAccount settings username email password fullName id

/-- An account made on behalf of its owner; its e-mail address counts as verified. -/
def createAccount (settings : Settings) (username email password : String)
    (fullName : Option String) (finish : Account → Account) : Task σ Account :=
  addAccount settings username email password fullName fun a =>
    finish { a with emailVerified := true }

def issueToken (settings : Settings) (account : Account) : Task σ String := do
  match Token.issue settings.secret settings.tokenLifetime (← clock) account with
  | .ok token => return token
  | .error fault => fail (.badToken fault)

/-- Checks a password, notes the sign-in and gives a token. An unknown name and a wrong password
are the same failure. -/
def login (settings : Settings) (username password : String) : Task σ (Account × String) := do
  let found ← look (Store.accountNamed username)
  match Password.verify? password (found.bind (·.passwordHash)), found with
  | none, _ => fail .unreadablePassword
  | some true, some account =>
    if !account.isActive then fail .disabled
    else
      let account ← saveAccount (account.recordLogin (← clock))
      return (account, ← issueToken settings account)
  | some _, _ => fail .badCredentials

/-- If the caller says who is asking, it is the account of the token. -/
def checkCaller (caller : Option String) (id : Uuid) : Except Failure Unit :=
  match caller with
  | none => .ok ()
  | some text =>
    match Uuid.parseLoose? text with
    | none => .error .malformedCaller
    | some claimed => if claimed == id then .ok () else .error .otherCaller

/-- The account behind a bearer token. -/
def authenticate (settings : Settings) (token : String) (caller : Option String) :
    Task σ Account := do
  match Token.verify settings.secret (← clock) token with
  | .error fault => fail (.badToken fault)
  | .ok claims =>
    match checkCaller caller claims.userId with
    | .error failure => fail failure
    | .ok () =>
      match ← look (Store.getAccount claims.userId) with
      | none => fail .orphanToken
      | some account => if account.isActive then return account else fail .disabled

def requireAdmin (account : Account) : Task σ Unit :=
  if account.isAdmin then return () else fail .adminOnly

end ReviewDesk.Desk

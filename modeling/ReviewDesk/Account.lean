import ReviewDesk.Validation.Field

/-!
Accounts, what their role and subscription allow, and their link to a GitHub identity.
-/
namespace ReviewDesk

inductive Role where
  | user | admin
  deriving Repr, DecidableEq

namespace Role

def all : List Role := [user, admin]

def name : Role → String
  | user => "USER"
  | admin => "ADMIN"

def ofName? (s : String) : Option Role := all.find? (·.name == s)

end Role

/-- A subscription. -/
inductive Tier where
  | free | premium
  deriving Repr, DecidableEq

namespace Tier

def all : List Tier := [free, premium]

def name : Tier → String
  | free => "FREE"
  | premium => "PREMIUM"

def ofName? (s : String) : Option Tier := all.find? (·.name == s)

def reviewsPerMonth : Tier → Nat
  | free => 10
  | premium => 100

def filesPerReview : Tier → Nat
  | free => 10
  | premium => 100

def repositories : Tier → Nat
  | free => 1
  | premium => 20

end Tier

structure Account where
  id : Uuid
  username : String
  email : String
  passwordHash : Option String := none
  fullName : Option String := none
  avatarUrl : Option String := none
  githubId : Option Int := none
  githubUsername : Option String := none
  githubToken : Option String := none
  role : Role := .user
  tier : Tier := .free
  isActive : Bool := true
  emailVerified : Bool := false
  isSpecial : Bool := false
  usageLimit : Option Int := none
  reviewsCount : Int := 0
  filesReviewed : Int := 0
  lastLoginAt : Option Moment := none
  createdAt : Moment
  updatedAt : Moment
  deriving Repr, DecidableEq

namespace Account

def usernameLimit : Nat := 50
def emailLimit : Nat := 254

def readUsername : Field.Reader String := Field.textBetween (some 1) (some usernameLimit)
def readEmail : Field.Reader String := Field.textBetween (some 3) (some emailLimit)
def readRole : Field.Reader Role := Field.oneOf Role.all Role.name
def readTier : Field.Reader Tier := Field.oneOf Tier.all Tier.name
def readText : Field.Reader (Option String) := Field.nullable Field.text
def readLimit : Field.Reader (Option Int) := Field.nullable (Field.integerFrom 1)
def readCounter : Field.Reader Int := Field.integerFrom 0

/-- An account read from its fields; `fresh` is its identifier and `now` its age if none is given. -/
def read (fresh : Uuid) (now : Moment) (fields : List (String × Json)) : Checked Account :=
  (fun id username email passwordHash fullName avatarUrl githubId githubUsername githubToken role
      tier isActive emailVerified isSpecial usageLimit reviewsCount filesReviewed lastLoginAt
      createdAt updatedAt =>
    { id, username, email, passwordHash, fullName, avatarUrl, githubId, githubUsername,
      githubToken, role, tier, isActive, emailVerified, isSpecial, usageLimit, reviewsCount,
      filesReviewed, lastLoginAt, createdAt, updatedAt })
  <$> Field.optional fields "id" fresh Field.identifier
  <*> Field.required fields "username" readUsername
  <*> Field.required fields "email" readEmail
  <*> Field.optional fields "password_hash" none readText
  <*> Field.optional fields "full_name" none readText
  <*> Field.optional fields "avatar_url" none readText
  <*> Field.optional fields "github_id" none (Field.nullable Field.integer)
  <*> Field.optional fields "github_username" none readText
  <*> Field.optional fields "github_access_token" none readText
  <*> Field.optional fields "role" .user readRole
  <*> Field.optional fields "subscription_tier" .free readTier
  <*> Field.optional fields "is_active" true Field.boolean
  <*> Field.optional fields "email_verified" false Field.boolean
  <*> Field.optional fields "is_special_user" false Field.boolean
  <*> Field.optional fields "usage_limit" none readLimit
  <*> Field.optional fields "reviews_count" 0 readCounter
  <*> Field.optional fields "total_files_reviewed" 0 readCounter
  <*> Field.optional fields "last_login_at" none (Field.nullable Field.moment)
  <*> Field.optional fields "created_at" now Field.moment
  <*> Field.optional fields "updated_at" now Field.moment

/-- A new account with nothing but a name and an e-mail address, both of which have to fit. -/
def make (id : Uuid) (now : Moment) (username email : String) : Checked Account :=
  (fun username email => { id, username, email, createdAt := now, updatedAt := now })
  <$> (Field.checkLength (some 1) (some usernameLimit) username).under "username"
  <*> (Field.checkLength (some 3) (some emailLimit) email).under "email"

/-- The account with a new value in one field. -/
def assign (a : Account) (field : String) (v : Json) : Checked Account :=
  match field with
  | "id" => Field.assigned field v Field.identifier fun x => { a with id := x }
  | "username" => Field.assigned field v readUsername fun x => { a with username := x }
  | "email" => Field.assigned field v readEmail fun x => { a with email := x }
  | "password_hash" => Field.assigned field v readText fun x => { a with passwordHash := x }
  | "full_name" => Field.assigned field v readText fun x => { a with fullName := x }
  | "avatar_url" => Field.assigned field v readText fun x => { a with avatarUrl := x }
  | "github_id" =>
    Field.assigned field v (Field.nullable Field.integer) fun x => { a with githubId := x }
  | "github_username" => Field.assigned field v readText fun x => { a with githubUsername := x }
  | "github_access_token" => Field.assigned field v readText fun x => { a with githubToken := x }
  | "role" => Field.assigned field v readRole fun x => { a with role := x }
  | "subscription_tier" => Field.assigned field v readTier fun x => { a with tier := x }
  | "is_active" => Field.assigned field v Field.boolean fun x => { a with isActive := x }
  | "email_verified" => Field.assigned field v Field.boolean fun x => { a with emailVerified := x }
  | "is_special_user" => Field.assigned field v Field.boolean fun x => { a with isSpecial := x }
  | "usage_limit" => Field.assigned field v readLimit fun x => { a with usageLimit := x }
  | "reviews_count" => Field.assigned field v readCounter fun x => { a with reviewsCount := x }
  | "total_files_reviewed" =>
    Field.assigned field v readCounter fun x => { a with filesReviewed := x }
  | "last_login_at" =>
    Field.assigned field v (Field.nullable Field.moment) fun x => { a with lastLoginAt := x }
  | "created_at" => Field.assigned field v Field.moment fun x => { a with createdAt := x }
  | "updated_at" => Field.assigned field v Field.moment fun x => { a with updatedAt := x }
  | other => (Checked.fail (.noSuchField other)).under other

/-- Assigns one field after the other up to the first problem; what has been assigned stays. -/
def assignAll (a : Account) : List (String × Json) → Account × List Problem
  | [] => (a, [])
  | (field, v) :: rest =>
    match a.assign field v with
    | .good b => b.assignAll rest
    | .bad ps => (a, ps)

def json (a : Account) : Json :=
  .obj [("id", .str a.id.text), ("username", .str a.username), ("email", .str a.email),
    ("password_hash", Json.ofText a.passwordHash), ("full_name", Json.ofText a.fullName),
    ("avatar_url", Json.ofText a.avatarUrl), ("github_id", Json.ofOption .int a.githubId),
    ("github_username", Json.ofText a.githubUsername),
    ("github_access_token", Json.ofText a.githubToken), ("role", .str a.role.name),
    ("subscription_tier", .str a.tier.name), ("is_active", .bool a.isActive),
    ("email_verified", .bool a.emailVerified), ("is_special_user", .bool a.isSpecial),
    ("usage_limit", Json.ofOption .int a.usageLimit), ("reviews_count", .int a.reviewsCount),
    ("total_files_reviewed", .int a.filesReviewed),
    ("last_login_at", Json.ofOption Moment.json a.lastLoginAt),
    ("created_at", a.createdAt.json), ("updated_at", a.updatedAt.json)]

def isAdmin (a : Account) : Bool := a.role == .admin

/-- Whether the account has a review left. Administrators and premium accounts have no bound, a
special account has its own, and the others that of their subscription. -/
def canCreateReview (a : Account) : Bool :=
  if !a.isActive then false
  else if a.isAdmin then true
  else if a.isSpecial then a.usageLimit.all (a.reviewsCount < ·)
  else if a.tier == .premium then true
  else a.reviewsCount < a.tier.reviewsPerMonth

/-- How many files a review of the account may have; none means any number. -/
def maxFiles (a : Account) : Option Nat :=
  if a.isAdmin || a.isSpecial then none else some a.tier.filesPerReview

def hasGitHub (a : Account) : Bool := a.githubId.isSome && a.githubToken.isSome

def recordLogin (now : Moment) (a : Account) : Account := { a with lastLoginAt := some now }

def connectGitHub (id : Int) (username token : String) (a : Account) : Account :=
  { a with githubId := some id, githubUsername := some username, githubToken := some token }

def updateGitHub (username token : String) (a : Account) : Account :=
  { a with githubUsername := some username, githubToken := some token }

def disconnectGitHub (a : Account) : Account :=
  { a with githubId := none, githubUsername := none, githubToken := none }

/-- A special account has a quota of its own, or none. -/
def makeSpecial (limit : Option Int) (a : Account) : Account :=
  { a with isSpecial := true, usageLimit := limit }

def revokeSpecial (a : Account) : Account := { a with isSpecial := false, usageLimit := none }

/-- A change to some of the fields of an account; what is left out stays. -/
structure Update where
  fullName : Option String := none
  role : Option Role := none
  tier : Option Tier := none
  isActive : Option Bool := none
  isSpecial : Option Bool := none
  usageLimit : Option Int := none
  deriving Repr, DecidableEq

/-- Makes the change. A new limit alone counts only for an account that is special already. -/
def update (u : Update) (a : Account) : Account :=
  let a := { a with
    fullName := u.fullName.or a.fullName
    role := u.role.getD a.role
    tier := u.tier.getD a.tier
    isActive := u.isActive.getD a.isActive }
  match u.isSpecial with
  | some true => a.makeSpecial u.usageLimit
  | some false => a.revokeSpecial
  | none => if a.isSpecial then { a with usageLimit := u.usageLimit.or a.usageLimit } else a

end Account

end ReviewDesk

import ReviewDesk.Account
import ReviewDesk.Store.Columns

/-!
Accounts in columns. Main definitions: `accountRow`, and `readAccount`, which reads it back.
-/
namespace ReviewDesk.Store

namespace Cell

def atLeast? (least : Int) (c : Cell) : Option Int := do
  let n ← c.integer?
  if n < least then none else some n

end Cell

def accountRow (a : Account) : Row :=
  [("id", .text a.id.text),
    ("username", .text a.username),
    ("email", .text a.email),
    ("password_hash", .ofOption .text a.passwordHash),
    ("full_name", .ofOption .text a.fullName),
    ("avatar_url", .ofOption .text a.avatarUrl),
    ("github_id", .ofOption .integer a.githubId),
    ("github_username", .ofOption .text a.githubUsername),
    ("github_access_token", .ofOption .text a.githubToken),
    ("role", .text a.role.name),
    ("subscription_tier", .text a.tier.name),
    ("is_active", .ofFlag a.isActive),
    ("email_verified", .ofFlag a.emailVerified),
    ("is_special_user", .ofFlag a.isSpecial),
    ("usage_limit", .ofOption .integer a.usageLimit),
    ("reviews_count", .integer a.reviewsCount),
    ("total_files_reviewed", .integer a.filesReviewed),
    ("last_login_at", .ofOption .ofMoment a.lastLoginAt),
    ("created_at", .ofMoment a.createdAt),
    ("updated_at", .ofMoment a.updatedAt)]

/-- The account of a row. -/
def readAccount (row : Row) : Option Account := do
  let id ← (row.cell "id").identifier?
  let username ← (row.cell "username").checked?
    (Field.checkLength (some 1) (some Account.usernameLimit))
  let email ← (row.cell "email").checked? (Field.checkLength (some 3) (some Account.emailLimit))
  let passwordHash ← (row.cell "password_hash").nullable Cell.text?
  let fullName ← (row.cell "full_name").nullable Cell.text?
  let avatarUrl ← (row.cell "avatar_url").nullable Cell.text?
  let githubId ← (row.cell "github_id").nullable Cell.integer?
  let githubUsername ← (row.cell "github_username").nullable Cell.text?
  let githubToken ← (row.cell "github_access_token").nullable Cell.text?
  let role ← (row.cell "role").named? Role.all Role.name
  let tier ← (row.cell "subscription_tier").named? Tier.all Tier.name
  let isActive ← (row.cell "is_active").flag?
  let emailVerified ← (row.cell "email_verified").flag?
  let isSpecial ← (row.cell "is_special_user").flag?
  let usageLimit ← (row.cell "usage_limit").nullable (Cell.atLeast? 1)
  let reviewsCount ← (row.cell "reviews_count").atLeast? 0
  let filesReviewed ← (row.cell "total_files_reviewed").atLeast? 0
  let lastLoginAt ← (row.cell "last_login_at").nullable Cell.moment?
  let createdAt ← (row.cell "created_at").moment?
  let updatedAt ← (row.cell "updated_at").moment?
  return {
    id, username, email, passwordHash, fullName, avatarUrl, githubId, githubUsername, githubToken,
    role, tier, isActive, emailVerified, isSpecial, usageLimit, reviewsCount, filesReviewed,
    lastLoginAt, createdAt, updatedAt }

/-- The year has four digits, and the clock is less than a day from UTC. -/
def onCalendar (m : Moment) : Bool := m.inRange && m.zone.all (·.natAbs < 86400)

/-- An account as it is kept: what its row is read as. Only moments of the calendar have a text. -/
def keptAccount (a : Account) : Account :=
  if a.lastLoginAt.all onCalendar && onCalendar a.createdAt && onCalendar a.updatedAt then
    (readAccount (accountRow a)).getD a
  else a

end ReviewDesk.Store

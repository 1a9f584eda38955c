import ReviewDesk.Desk.SignIn

/-!
What administrators do: accounts of others and figures about the whole desk.
-/
namespace ReviewDesk

/-- Figures about the whole desk. -/
structure Census where
  accounts : Nat
  active : Nat
  special : Nat
  reviews : Nat
  reviewsToday : Nat
  reviewsThisWeek : Nat
  reviewsThisMonth : Nat
  deriving Repr, DecidableEq

namespace Desk

variable {σ : Type}

def accountOf (id : Uuid) : Task σ Account := do
  match ← look (Store.getAccount id) with
  | some account => return account
  | none => fail (.noAccount id)

/-- A verified account that has its own quota. -/
def createSpecial (settings : Settings) (username email password : String)
    (fullName : Option String) (limit : Option Int) : Task σ Account :=
  createAccount settings username email password fullName (·.makeSpecial limit)

def updateAccount (id : Uuid) (u : Account.Update) : Task σ Account := do
  let account ← accountOf id
  saveAccount (account.update u)

/-- Administrators are not deleted. -/
def deleteAccount (id : Uuid) : Task σ Unit := do
  let account ← accountOf id
  if account.isAdmin then fail .adminStays
  else adjust fun s => ((), s.deleteAccount id)

def resetUsage (id : Uuid) : Task σ Account := do
  let now ← clock
  if ← adjust fun s => s.resetReviews now id then accountOf id else fail (.noAccount id)

/-- The figures of a store at a moment. -/
def census (now : Moment) (s : Store) : Census := {
  accounts := s.accounts.length
  active := s.accounts.countP (·.isActive)
  special := s.accounts.countP (·.isSpecial)
  reviews := s.reviews.length
  reviewsToday := s.countCreatedAfter now.startOfDay
  reviewsThisWeek := s.countCreatedAfter (now.addMicroseconds (-7 * Moment.day))
  reviewsThisMonth := s.countCreatedAfter (now.addMicroseconds (-30 * Moment.day)) }

/-- The figures now. The days that they go back have to be on the calendar. -/
def takeCensus : Task σ Census := do
  let now ← clock
  if (now.addMicroseconds (-30 * Moment.day)).inRange then return census now (← get).store
  else fail .dateOutOfRange

end Desk

end ReviewDesk

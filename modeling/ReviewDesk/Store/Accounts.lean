import ReviewDesk.Store.AccountColumns
import ReviewDesk.Store.Basic

/-!
Accounts in the store. Profile changes go through `saveAccount`, which writes a whole row; counters
have operations of their own, which change one row in place.
-/
namespace ReviewDesk.Store

/-- A stored counter as an account shows it. -/
def checkCounter (n : Int) : Checked Int :=
  if fits n then Field.checkAtLeast 0 n else .fail .integerTooLong

/-- The account of a row. Counters that were changed in place may be out of bounds. -/
def loadRow (row : Account) : Except Fault Account :=
  let checked : Checked Account :=
    (fun reviewsCount filesReviewed => { row with reviewsCount, filesReviewed })
    <$> (checkCounter row.reviewsCount).under "reviews_count"
    <*> (checkCounter row.filesReviewed).under "total_files_reviewed"
  match checked with
  | .good a => .ok a
  | .bad ps => .error (.unreadable ps)

def loadFirst (rows : List Account) : Except Fault (Option Account) :=
  match rows with
  | [] => .ok none
  | row :: _ => (loadRow row).map some

/-- Whether two rows cannot stand side by side. -/
def clashes (a b : Account) : Bool :=
  a.id != b.id &&
    (a.username == b.username || a.email == b.email ||
      (a.githubId.isSome && a.githubId == b.githubId))

def fitsAccount (a : Account) : Bool :=
  a.githubId.all fits && a.usageLimit.all fits && fits a.reviewsCount && fits a.filesReviewed

/-- Puts a row in the place of the one with its identifier, or at the end. -/
def putRow (a : Account) : List Account → List Account
  | [] => [a]
  | b :: rest => if b.id == a.id then a :: rest else b :: putRow a rest

/-- Writes the row of an account, with the time of the change. -/
def saveAccount (now : Moment) (a : Account) (s : Store) : Except Fault (Account × Store) :=
  let row := { a with updatedAt := now }
  if !fitsAccount row then .error .integerOverflow
  else if s.accounts.any (clashes row) then .error (.accountConflict row.username)
  else .ok (row, { s with accounts := putRow (keptAccount row) s.accounts })

def getAccount (id : Uuid) (s : Store) : Except Fault (Option Account) :=
  loadFirst (s.accounts.filter (·.id == id))

def accountNamed (username : String) (s : Store) : Except Fault (Option Account) :=
  loadFirst (s.accounts.filter (·.username == username))

/-- E-mail addresses are compared without regard to the case of ASCII letters. -/
def foldEmail (email : String) : String := .ofList (email.toList.map Char.toLower)

def accountWithEmail (email : String) (s : Store) : Except Fault (Option Account) :=
  loadFirst (s.accounts.filter fun a => foldEmail a.email == foldEmail email)

def accountWithGitHub (id : Int) (s : Store) : Except Fault (Option Account) :=
  if fits id then loadFirst (s.accounts.filter (·.githubId == some id))
  else .error .integerOverflow

/-- Older accounts first, those of the same time by name. -/
def inOrder (rows : List Account) : List Account :=
  rows.mergeSort fun a b =>
    let x := a.createdAt.storedText
    let y := b.createdAt.storedText
    x < y || (x == y && decide (a.username ≤ b.username))

def allAccounts (s : Store) : Except Fault (List Account) := (inOrder s.accounts).mapM loadRow

def specialAccounts (s : Store) : Except Fault (List Account) :=
  (inOrder (s.accounts.filter (·.isSpecial))).mapM loadRow

/-- Removes an account with its reviews. -/
def deleteAccount (id : Uuid) (s : Store) : Store :=
  ⟨s.accounts.filter (·.id != id), s.reviews.filter (·.reviewerId != id)⟩

/-- Changes the row of an account in place; the flag says whether there is one. -/
def updateRow (now : Moment) (id : Uuid) (change : Account → Account) (s : Store) :
    Bool × Store :=
  (s.accounts.any (·.id == id),
    { s with accounts := s.accounts.map fun a =>
        if a.id == id then { change a with updatedAt := now } else a })

/-- Whether the row of an account allows one more review. -/
def mayReserve (row : Account) : Bool :=
  row.isActive &&
    (row.role == .admin ||
      (row.isSpecial && row.usageLimit.all (row.reviewsCount < ·)) ||
      (!row.isSpecial &&
        (row.tier == .premium || row.reviewsCount < Tier.free.reviewsPerMonth)))

/-- Counts one review against the quota of an account, if the quota allows it. -/
def reserveReview (now : Moment) (id : Uuid) (s : Store) : Bool × Store :=
  if s.accounts.any fun a => a.id == id && mayReserve a then
    s.updateRow now id fun a => { a with reviewsCount := plus a.reviewsCount 1 }
  else (false, s)

/-- Gives back a review that was counted and failed. -/
def releaseReview (now : Moment) (id : Uuid) (s : Store) : Store :=
  (s.updateRow now id fun a => { a with reviewsCount := max (plus a.reviewsCount (-1)) 0 }).2

def addFiles (now : Moment) (id : Uuid) (count : Int) (s : Store) : Except Fault Store :=
  if fits count then
    .ok (s.updateRow now id fun a => { a with filesReviewed := plus a.filesReviewed count }).2
  else .error .integerOverflow

def resetReviews (now : Moment) (id : Uuid) (s : Store) : Bool × Store :=
  s.updateRow now id fun a => { a with reviewsCount := 0 }

end ReviewDesk.Store

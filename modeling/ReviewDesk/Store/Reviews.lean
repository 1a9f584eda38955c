import ReviewDesk.Store.Basic
import ReviewDesk.Store.Columns

/-!
Reviews in the store. A review is saved as a whole, with its findings, or not at all.
-/
namespace ReviewDesk.Store

def fitsReview (r : Review) : Bool :=
  fits r.filesAnalyzed && fits r.linesAnalyzed && r.durationMs.all fits && r.tokensUsed.all fits

def fitsFinding (f : Finding) : Bool :=
  f.line.all (fits ·) && f.endLine.all (fits ·)

/-- Checks the findings one by one against the identifiers that are taken. -/
def checkFindings (taken : List Uuid) : List Finding → Except Fault Unit
  | [] => .ok ()
  | f :: rest =>
    if !fitsFinding f then .error .integerOverflow
    else if taken.contains f.id then .error .duplicateFinding
    else checkFindings (f.id :: taken) rest

/-- The identifiers of the findings of all reviews but one. -/
def findingIds (except : Uuid) (s : Store) : List Uuid :=
  (s.reviews.filter (·.id != except)).flatMap fun r => r.findings.map (·.id)

/-- A review as it is kept: what its row and the rows of its findings are read as. -/
def kept (r : Review) : Review := (readReview (reviewRow r) (rowsOfFindings r)).getD r

/-- Puts a review in the place of the one with its identifier, or at the end. -/
def putReview (r : Review) : List Review → List Review
  | [] => [r]
  | q :: rest => if q.id == r.id then r :: rest else q :: putReview r rest

def saveReview (r : Review) (s : Store) : Except Fault Store :=
  if !fitsReview r then .error .integerOverflow
  else if !s.accounts.any (·.id == r.reviewerId) then .error .missingOwner
  else match checkFindings (s.findingIds r.id) r.findings with
    | .error fault => .error fault
    | .ok () => .ok { s with reviews := putReview (kept r) s.reviews }

def getReview (id : Uuid) (s : Store) : Option Review := s.reviews.find? (·.id == id)

/-- Newer reviews first, by the text of their time, else in the order in which they came in. -/
def newestFirst (reviews : List Review) : List Review :=
  reviews.mergeSort fun a b => decide (b.createdAt.storedText ≤ a.createdAt.storedText)

/-- The reviews of an account, newest first. A limit below zero is none. -/
def reviewsOf (id : Uuid) (limit : Option Int) (s : Store) : Except Fault (List Review) :=
  let all := newestFirst (s.reviews.filter (·.reviewerId == id))
  match limit with
  | none => .ok all
  | some n =>
    if !fits n then .error .integerOverflow
    else .ok (if n < 0 then all else all.take n.toNat)

/-- How many reviews were created after a moment, by the text of their times. -/
def countCreatedAfter (m : Moment) (s : Store) : Nat :=
  s.reviews.countP fun r => m.storedText < r.createdAt.storedText

def deleteReview (id : Uuid) (s : Store) : Store :=
  { s with reviews := s.reviews.filter (·.id != id) }

/-- Sets the flag of one finding of a review; the flag that is given back says whether there is
one. -/
def setResolved (review finding : Uuid) (resolved : Bool) (s : Store) : Bool × Store :=
  (s.reviews.any fun r => r.id == review && r.findings.any (·.id == finding),
    { s with reviews := s.reviews.map fun r =>
        if r.id == review then r.setResolved finding resolved else r })

end ReviewDesk.Store

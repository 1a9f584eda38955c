import ReviewDesk.Account
import ReviewDesk.Review

/-!
What is kept between requests: accounts and reviews, in the order in which they came in. A review
is kept with its findings in order. The operations keep accounts apart by name, e-mail and GitHub
identity, and give every review an owner.
-/
namespace ReviewDesk

structure Store where
  accounts : List Account := []
  reviews : List Review := []

namespace Store

inductive Fault where
  /-- A whole number that does not fit in 64 bits. -/
  | integerOverflow
  /-- Another account has the name, the e-mail or the GitHub identity. -/
  | accountConflict (username : String)
  /-- A review of an account that is not there. -/
  | missingOwner
  /-- A finding whose identifier is taken. -/
  | duplicateFinding
  /-- A row that no longer reads as an account. -/
  | unreadable (problems : List Problem)
  deriving Repr, DecidableEq

def Fault.message : Fault → String
  | integerOverflow => "Python int too large to convert to SQLite INTEGER"
  | accountConflict username => s!"User '{username}' conflicts with an existing account."
  | missingOwner => "FOREIGN KEY constraint failed"
  | duplicateFinding => "UNIQUE constraint failed: review_findings.id"
  | unreadable problems => "; ".intercalate (problems.map (·.cause.message))

def fits (n : Int) : Bool := -0x8000000000000000 ≤ n && n < 0x8000000000000000

/-- The sum of two stored numbers. A sum beyond 64 bits is kept as the nearest double. -/
def plus (a b : Int) : Int :=
  if fits a && fits b && fits (a + b) then a + b
  else Decimal.round53Int (Decimal.round53Int a + Decimal.round53Int b)

end Store

end ReviewDesk

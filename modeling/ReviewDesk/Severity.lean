/-!
How grave a finding is. The order of `Severity.all` is from the gravest down.
-/
namespace ReviewDesk

inductive Severity where
  | critical | high | medium | low | info
  deriving Repr, DecidableEq

namespace Severity

def all : List Severity := [critical, high, medium, low, info]

def name : Severity → String
  | critical => "CRITICAL"
  | high => "HIGH"
  | medium => "MEDIUM"
  | low => "LOW"
  | info => "INFO"

def ofName? (s : String) : Option Severity := all.find? (·.name == s)

/-- Larger is graver. -/
def priority : Severity → Nat
  | critical => 4
  | high => 3
  | medium => 2
  | low => 1
  | info => 0

def description : Severity → String
  | critical => "Must fix immediately"
  | high => "Should fix soon"
  | medium => "Should fix eventually"
  | low => "Nice to have"
  | info => "Informational only"

/-- The weight of a finding on a scale from 1 to 10. -/
def impact : Severity → Nat
  | critical => 10
  | high => 7
  | medium => 5
  | low => 3
  | info => 1

end Severity

end ReviewDesk

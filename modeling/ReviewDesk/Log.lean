import ReviewDesk.Text.LetterCase

/-!
What the log shows: how much of it, and how much of a secret.
-/
namespace ReviewDesk.Log

def levels : List (String × Nat) := [
  ("CRITICAL", 50), ("FATAL", 50), ("ERROR", 40), ("WARN", 30), ("WARNING", 30), ("INFO", 20),
  ("DEBUG", 10), ("NOTSET", 0)]

/-- The number of a level by its name in any case; an unknown name is the level of information. -/
def levelOf (name : String) : Nat := (levels.lookup (Text.upper name)).getD 20

/-- The level of the messages about requests, whatever the level of the others is. -/
def requestLevel : Nat := 30

/-- The start of a secret. -/
def redact (secret : Option String) : String :=
  match secret.filter (!·.isEmpty) with
  | none => "null"
  | some s => String.ofList (s.toList.take 10) ++ "..."

end ReviewDesk.Log

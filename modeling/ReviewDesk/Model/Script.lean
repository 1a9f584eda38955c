import ReviewDesk.Model.Basic

/-!
A review model that answers from a list, one reply per call. When the list is used up it finds
nothing.
-/
namespace ReviewDesk.Model

inductive Reply where
  | text (text : String) (tokensIn tokensOut : Int)
  | refused (message : String)
  | broken (message : String)
  deriving Repr, DecidableEq

/-- A request as it was made. -/
structure Call where
  prompt : String
  instructions : Option String
  deriving Repr, DecidableEq

structure Script where
  name : String
  replies : List Reply
  calls : List Call := []
  deriving Repr, DecidableEq

namespace Script

def answer (name : String) : Reply → Except Fault Completion
  | .text text tokensIn tokensOut => .ok ⟨text, tokensIn, tokensOut, name⟩
  | .refused message => .error (.refused message none)
  | .broken message => .error (.broken message)

/-- Answers one request with the next reply. -/
def complete (prompt : String) (instructions : Option String) :
    StateM Script (Except Fault Completion) := fun s =>
  let logged := { s with calls := s.calls ++ [⟨prompt, instructions⟩], replies := s.replies.tail }
  (answer s.name (s.replies.headD (.text "[]" 120 80)), logged)

def model (name : String) : Model Script := ⟨name, complete⟩

end Script

end ReviewDesk.Model

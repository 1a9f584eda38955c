import ReviewDesk.Json.Bytes

/-!
The review model as a peer: it is given a text and perhaps instructions, and gives back a text or
fails. `σ` is the state of whatever stands behind it.
-/
namespace ReviewDesk

structure Completion where
  text : String
  tokensIn : Int
  tokensOut : Int
  model : String
  deriving Repr, DecidableEq

namespace Model

/-- What is wrong with a reply that should be a message. -/
inductive Flaw where
  | notJson (fault : Json.BytesFault)
  /-- A value of another kind than an object. -/
  | notObject (kind : String)
  | noContent
  | noUsage
  deriving Repr, DecidableEq

def Flaw.message : Flaw → String
  | notJson fault => fault.message
  | notObject kind => s!"'{kind}' object has no attribute 'content'"
  | noContent => "'NoneType' object is not iterable"
  | noUsage => "'NoneType' object has no attribute 'input_tokens'"

inductive Fault where
  /-- The request failed, perhaps with a status. -/
  | refused (message : String) (status : Option Nat)
  /-- Anything else that went wrong on the way. -/
  | broken (message : String)
  /-- The reply is no message. -/
  | flawed (flaw : Flaw)
  /-- The tokens of a reply are beyond what can be priced. -/
  | unpriceable
  deriving Repr, DecidableEq

def Fault.message : Fault → String
  | refused message _ => message
  | broken message => message
  | flawed flaw => flaw.message
  | unpriceable => "int too large to convert to float"

end Model

structure Model (σ : Type) where
  name : String
  complete : (prompt : String) → (instructions : Option String) →
    StateM σ (Except Model.Fault Completion)

end ReviewDesk

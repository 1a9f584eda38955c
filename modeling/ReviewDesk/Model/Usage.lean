import ReviewDesk.Validation.Field

/-!
What the calls of the review model in one run used and cost.
-/
namespace ReviewDesk

namespace Model

/-- Dollars per million tokens, in and out. -/
def prices : List (String × Float × Float) :=
  [("claude-sonnet-4-20250514", 3.0, 15.0), ("claude-3-5-haiku-20241022", 0.8, 4.0),
    ("claude-opus-4-20250514", 15.0, 75.0)]

def priceOf (model : String) : Float × Float := (prices.lookup model).getD (3.0, 15.0)

/-- The cost of some tokens in dollars, rounded to six places; none if the counts are beyond all
doubles. -/
def cost? (model : String) (tokensIn tokensOut : Int) : Option Float :=
  let (priceIn, priceOut) := priceOf model
  let countIn := Field.realOfInt tokensIn
  let countOut := Field.realOfInt tokensOut
  if countIn.isInf || countOut.isInf then none
  else some (Decimal.roundPlaces 6 ((countIn * priceIn + countOut * priceOut) / 1000000.0))

end Model

structure Usage where
  model : String
  costUsd : Float := 0.0
  tokensIn : Int := 0
  tokensOut : Int := 0
  calls : Nat := 0
  warnings : List String := []
  deriving Repr

namespace Usage

def tokens (u : Usage) : Int := u.tokensIn + u.tokensOut

/-- Adds one call; none if its tokens cannot be priced. -/
def record? (tokensIn tokensOut : Int) (u : Usage) : Option Usage :=
  let sumIn := u.tokensIn + tokensIn
  let sumOut := u.tokensOut + tokensOut
  (Model.cost? u.model sumIn sumOut).map fun cost =>
    { u with costUsd := cost, tokensIn := sumIn, tokensOut := sumOut, calls := u.calls + 1 }

def warn (message : String) (u : Usage) : Usage := { u with warnings := u.warnings ++ [message] }

def json (u : Usage) : Json :=
  .obj [("model", .str u.model), ("cost_usd", .real u.costUsd), ("tokens_in", .int u.tokensIn),
    ("tokens_out", .int u.tokensOut), ("llm_calls", Json.ofNat u.calls),
    ("warnings", .arr (u.warnings.map .str)), ("tokens_used", .int u.tokens)]

end Usage

end ReviewDesk

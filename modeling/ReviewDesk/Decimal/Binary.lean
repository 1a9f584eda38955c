/-!
Finite doubles as exact numbers, and rounding to the precision of doubles.
-/
namespace ReviewDesk.Decimal

/-- The number `±mantissa · 2 ^ exponent`. -/
structure Binary where
  negative : Bool
  mantissa : Nat
  exponent : Int
  deriving Repr, DecidableEq

namespace Binary

/-- The exact value of a double, unless it is infinite or no number. -/
def ofFloat? (x : Float) : Option Binary :=
  let bits := x.toBits.toNat
  let exponent : Nat := bits / Nat.pow 2 52 % Nat.pow 2 11
  let fraction := bits % Nat.pow 2 52
  let negative := bits / Nat.pow 2 63 == 1
  if exponent == 2047 then none
  else if exponent == 0 then some ⟨negative, fraction, -1074⟩
  else some ⟨negative, fraction + Nat.pow 2 52, (exponent : Int) - 1075⟩

/-- Numerator and denominator of the absolute value. -/
def ratio (b : Binary) : Nat × Nat :=
  if b.exponent < 0 then (b.mantissa, Nat.pow 2 b.exponent.natAbs)
  else (b.mantissa * Nat.pow 2 b.exponent.natAbs, 1)

def signed (b : Binary) (n : Nat) : Int :=
  if b.negative then -(n : Int) else n

/-- The whole part. -/
def truncate (b : Binary) : Int :=
  b.signed (b.ratio.1 / b.ratio.2)

def isWhole (b : Binary) : Bool :=
  b.ratio.1 % b.ratio.2 == 0

end Binary

/-- The nearest whole number to `num / den`, the even one of two equally near. -/
def roundDiv (num den : Nat) : Nat :=
  let q := num / den
  let r := 2 * (num % den)
  if r < den || (r == den && q % 2 == 0) then q else q + 1

/-- The nearest number with at most 53 significant bits, the one with an even last bit of two
equally near. -/
def round53 (n : Nat) : Nat :=
  let excess := n.log2 + 1 - 53
  roundDiv n (Nat.pow 2 excess) * Nat.pow 2 excess

/-- `round53` on whole numbers of either sign. -/
def round53Int (n : Int) : Int :=
  if n < 0 then -(round53 n.natAbs : Int) else round53 n.natAbs

/-- The whole part of a finite double. -/
def wholePart? (x : Float) : Option Int :=
  (Binary.ofFloat? x).map Binary.truncate

end ReviewDesk.Decimal

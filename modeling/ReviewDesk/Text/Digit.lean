import ReviewDesk.Text.Blank
import ReviewDesk.Text.Ranges

/-!
Decimal digits of all scripts. A script's ten digits stand together, so its zero fixes them.
-/
namespace ReviewDesk.Text

/-- The digit zero of every script. -/
def scriptZeros : List Nat := [
  48, 1632, 1776, 1984, 2406, 2534, 2662, 2790, 2918, 3046, 3174, 3302, 3430, 3558, 3664, 3792,
  3872, 4160, 4240, 6112, 6160, 6470, 6608, 6784, 6800, 6992, 7088, 7232, 7248, 42528, 43216,
  43264, 43472, 43504, 43600, 44016, 65296, 66720, 68912, 69734, 69872, 69942, 70096, 70384,
  70736, 70864, 71248, 71360, 71472, 71904, 72016, 72784, 73040, 73120, 92768, 92864, 93008,
  120782, 120792, 120802, 120812, 120822, 123200, 123632, 125264, 130032]

/-- Raised, lowered, circled and other marked digits, which have no place in a numeral. -/
def markedDigitRanges : Array (Nat × Nat) := #[
  (178, 179), (185, 185), (4969, 4977), (6618, 6618), (8304, 8304), (8308, 8313), (8320, 8329),
  (9312, 9320), (9332, 9340), (9352, 9360), (9450, 9450), (9461, 9469), (9471, 9471),
  (10102, 10110), (10112, 10120), (10122, 10130), (68160, 68163), (69216, 69224), (69714, 69722),
  (127232, 127242)]

/-- The value of a decimal digit of any script. -/
def digitValue? (c : Char) : Option Nat :=
  (scriptZeros.find? fun z => z ≤ c.toNat && c.toNat < z + 10).map fun z => c.toNat - z

/-- A digit in the wide sense, the marked ones included. -/
def isDigit (c : Char) : Bool :=
  (digitValue? c).isSome || inRanges markedDigitRanges c.toNat

/-- The value of digits with single underscores between them. -/
def digitsValue? : Option Nat → List Char → Option Nat
  | value, [] => value
  | value, '_' :: c :: cs =>
    match value, digitValue? c with
    | some n, some d => digitsValue? (some (10 * n + d)) cs
    | _, _ => none
  | value, c :: cs =>
    match digitValue? c with
    | some d => digitsValue? (some (10 * value.getD 0 + d)) cs
    | none => none

/-- A whole number: blanks around it, a sign, and digits of any script. -/
def wholeNumber? (s : String) : Option Int :=
  match trimBy isBlank s.toList with
  | '-' :: cs => (digitsValue? none cs).map fun n => -(n : Int)
  | '+' :: cs => (digitsValue? none cs).map fun n => (n : Int)
  | cs => (digitsValue? none cs).map fun n => (n : Int)

end ReviewDesk.Text

import ReviewDesk.Decimal.Binary

/-!
Decimal text of doubles: the fewest digits that read back, and a fixed number of places.
-/
namespace ReviewDesk.Decimal

/-- `digits · 10 ^ exponent`. -/
structure Digits where
  digits : Nat
  exponent : Int
  deriving Repr, DecidableEq

/-- Scales `num / den` by `10 ^ (-e)`. -/
def scaled (num den : Nat) (e : Int) : Nat × Nat :=
  if e < 0 then (num * Nat.pow 10 e.natAbs, den) else (num, den * Nat.pow 10 e.natAbs)

/-- The least `k ≤ budget` with `den ≤ num * 10 ^ k`. -/
def lift (num den : Nat) : Nat → Nat → Nat
  | 0, k => k
  | budget + 1, k => if den ≤ num * Nat.pow 10 k then k else lift num den budget (k + 1)

/-- The power of ten of the first digit of a positive `num / den`. -/
def magnitude (num den : Nat) : Int :=
  if den ≤ num then ((Nat.toDigits 10 (num / den)).length : Int) - 1
  else -(lift num den 400 1 : Int)

/-- The numbers that read back as a given double, between two bounds over one denominator. The
bounds themselves count if `closed`. -/
structure Neighbourhood where
  low : Nat
  value : Nat
  high : Nat
  den : Nat
  closed : Bool

def neighbourhood (b : Binary) : Neighbourhood :=
  let low := if b.mantissa == Nat.pow 2 52 && b.exponent != -1074 then 4 * b.mantissa - 1
    else 4 * b.mantissa - 2
  let (factor, den) := if b.exponent < 2 then (1, Nat.pow 2 (2 - b.exponent).natAbs)
    else (Nat.pow 2 (b.exponent - 2).natAbs, 1)
  ⟨low * factor, 4 * b.mantissa * factor, (4 * b.mantissa + 2) * factor, den,
    b.mantissa % 2 == 0⟩

/-- Whether `n · 10 ^ e` reads back. -/
def Neighbourhood.holds (h : Neighbourhood) (n : Nat) (e : Int) : Bool :=
  let (num, den) := if e < 0 then (n, Nat.pow 10 e.natAbs) else (n * Nat.pow 10 e.natAbs, 1)
  let below := h.low * den
  let point := num * h.den
  let above := h.high * den
  if h.closed then below ≤ point && point ≤ above else below < point && point < above

/-- The nearer of the two neighbours with `count` digits that reads back. -/
def Neighbourhood.withDigits (h : Neighbourhood) (top : Int) (count : Nat) : Option Digits :=
  let e := top - count + 1
  let (num, den) := scaled h.value h.den e
  let floor := num / den
  let lower := h.holds floor e
  let upper := h.holds (floor + 1) e
  let choose (n : Nat) : Option Digits := some ⟨n, e⟩
  if lower && upper then choose (roundDiv num den)
  else if lower then choose floor
  else if upper then choose (floor + 1)
  else none

/-- Digits of a positive double: as few as read back, and of those the nearest. -/
def shortest (b : Binary) : Digits :=
  let h := neighbourhood b
  let top := magnitude h.value h.den
  ((List.range 17).findSome? fun i => h.withDigits top (i + 1)).getD ⟨b.mantissa, b.exponent⟩

/-- How digits are laid out: in positional notation if the leading digit stands for at least
`10 ^ least` and less than `10 ^ 16`, else with an exponent. -/
structure Layout where
  least : Int
  /-- The exponent has a sign in any case, and at least two digits. -/
  fullExponent : Bool
  deriving Repr, DecidableEq

def Layout.usual : Layout := ⟨-4, true⟩

def Layout.brief : Layout := ⟨-5, false⟩

/-- The part behind the mark of an exponent. -/
def Layout.power (l : Layout) (top : Int) : String :=
  if l.fullExponent then
    (if top < 0 then "-" else "+") ++ (if top.natAbs < 10 then "0" else "") ++ toString top.natAbs
  else toString top

def Layout.write (l : Layout) (d : Digits) : String :=
  let ds := Nat.toDigits 10 d.digits
  let top := d.exponent + ds.length - 1
  let ds := (ds.reverse.dropWhile (· == '0')).reverse
  if l.least ≤ top && top < 16 then
    if top < 0 then "0." ++ String.ofList (List.replicate (top.natAbs - 1) '0' ++ ds)
    else
      let whole := ds.take (top.natAbs + 1)
      let whole := whole ++ List.replicate (top.natAbs + 1 - whole.length) '0'
      let rest := ds.drop (top.natAbs + 1)
      String.ofList whole ++ "." ++ String.ofList (if rest.isEmpty then ['0'] else rest)
  else
    let mantissa := match ds with
      | [] => "0"
      | [c] => String.singleton c
      | c :: rest => String.ofList (c :: '.' :: rest)
    mantissa ++ "e" ++ l.power top

/-- The text of a double that is finite. -/
def Layout.finiteText (l : Layout) (b : Binary) : String :=
  (if b.negative then "-" else "") ++ (if b.mantissa == 0 then "0.0" else l.write (shortest b))

/-- The text of a double. -/
def Layout.text (l : Layout) (x : Float) : String :=
  match Binary.ofFloat? x with
  | some b => l.finiteText b
  | none => if x.isNaN then "nan" else if x < 0 then "-inf" else "inf"

def text (x : Float) : String := Layout.usual.text x

/-- The text of a double with a fixed number of places, a half going to the even neighbour. -/
def fixed (places : Nat) (x : Float) : String :=
  match Binary.ofFloat? x with
  | none => text x
  | some b =>
    let n := roundDiv (b.ratio.1 * Nat.pow 10 places) b.ratio.2
    let whole := toString (n / Nat.pow 10 places)
    let rest := toString (n % Nat.pow 10 places)
    let sign := if b.negative then "-" else ""
    if places = 0 then sign ++ whole
    else sign ++ whole ++ "." ++ String.ofList (List.replicate (places - rest.length) '0') ++ rest

/-- The double nearest to a double rounded to a number of places. -/
def roundPlaces (places : Nat) (x : Float) : Float :=
  match Binary.ofFloat? x with
  | none => x
  | some b =>
    let n := roundDiv (b.ratio.1 * Nat.pow 10 places) b.ratio.2
    let y := Float.ofScientific n true places
    if b.negative then -y else y

/-- The double nearest to `digits · 10 ^ exponent`; beyond the range of doubles it is infinite or
zero. -/
def ofDigits (digits : Nat) (exponent : Int) : Float :=
  let size : Int := (Nat.toDigits 10 digits).length
  if digits = 0 || size + exponent < -400 then 0
  else if 400 < size + exponent then 1.0 / 0.0
  else if exponent < 0 then Float.ofScientific digits true exponent.natAbs
  else Float.ofScientific digits false exponent.natAbs

end ReviewDesk.Decimal

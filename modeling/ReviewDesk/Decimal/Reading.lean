import ReviewDesk.Decimal.Shortest
import ReviewDesk.Text.Blank
import ReviewDesk.Text.Digit

/-!
Numbers from text. A double is a sign, digits with a point and an exponent, or a word for what is
infinite or no number.
-/
namespace ReviewDesk.Decimal

/-- A whole number with an optional sign. -/
def signedDigits? (cs : List Char) : Option Int :=
  let (negative, ds) := match cs with
    | '-' :: ds => (true, ds)
    | '+' :: ds => (false, ds)
    | ds => (false, ds)
  if ds.isEmpty || !ds.all Char.isDigit then none
  else
    let n : Int := (ds.foldl (fun n d => 10 * n + (d.toNat - 48)) 0 : Nat)
    some (if negative then -n else n)

/-- The number without its sign. -/
def magnitude? (cs : List Char) : Option Float :=
  let word := String.ofList (cs.map Char.toLower)
  if word == "inf" || word == "infinity" then some (1.0 / 0.0)
  else if word == "nan" then some (0.0 / 0.0)
  else
    let whole := cs.takeWhile Char.isDigit
    let rest := cs.drop whole.length
    let (fraction, rest) := match rest with
      | '.' :: more => (more.takeWhile Char.isDigit, more.dropWhile Char.isDigit)
      | _ => ([], rest)
    if whole.isEmpty && fraction.isEmpty then none
    else
      let power : Option Int := match rest with
        | [] => some 0
        | e :: more => if e == 'e' || e == 'E' then signedDigits? more else none
      let digits := (whole ++ fraction).foldl (fun n d => 10 * n + (d.toNat - 48)) 0
      power.map fun p => ofDigits digits (p - fraction.length)

def readReal? : List Char → Option Float
  | '-' :: cs => (magnitude? cs).map fun x => -x
  | '+' :: cs => magnitude? cs
  | cs => magnitude? cs

/-- Takes out underscores, each of which has to stand between two digits. -/
def joinDigits? : Bool → List Char → Option (List Char)
  | _, [] => some []
  | afterDigit, '_' :: cs =>
    match cs with
    | d :: rest => if afterDigit && d.isDigit then (joinDigits? true rest).map (d :: ·) else none
    | [] => none
  | _, c :: cs => (joinDigits? c.isDigit cs).map (c :: ·)

/-- A digit of any script as one of the ten. -/
def plainDigit (c : Char) : Char := ((Text.digitValue? c).map Nat.digitChar).getD c

/-- A number with blanks around it and underscores between its digits. -/
def readNumeral? (s : String) : Option Float :=
  (joinDigits? false ((Text.trimBy Text.isBlank s.toList).map plainDigit)).bind readReal?

/-- The most digits that a whole number may have. -/
def integerDigits : Nat := 4300

/-- A whole number with blanks around it and underscores between its digits. -/
def readInteger? (s : String) : Option Int := do
  let cs ← joinDigits? false ((Text.trimBy Text.isBlank s.toList).map plainDigit)
  if integerDigits < (cs.filter Char.isDigit).length then none else signedDigits? cs

end ReviewDesk.Decimal

import ReviewDesk.Http.Url

/-!
Reading text out of its percent form, and the pairs of a query.
-/
namespace ReviewDesk.Http

/-- The bytes that a text in percent form stands for. A percent sign that does not begin a byte
stands for itself. -/
def percentBytes : List Char → List UInt8
  | '%' :: a :: b :: rest =>
    match Json.hexDigit? a, Json.hexDigit? b with
    | some x, some y => UInt8.ofNat (16 * x + y) :: percentBytes rest
    | _, _ => 37 :: percentBytes (a :: b :: rest)
  | c :: rest => Text.utf8Bytes (String.singleton c) ++ percentBytes rest
  | [] => []

def percentDecode (s : String) : String := Text.decodeReplacing (percentBytes s.toList)

/-- In a query a plus sign stands for a blank. -/
def decodeValue (cs : List Char) : String :=
  percentDecode (.ofList (cs.map fun c => if c == '+' then ' ' else c))

/-- The names and values of a query, in their order. -/
def queryPairs (query : String) : List (String × String) :=
  ((query.splitOn "&").filter (!·.isEmpty)).map fun part =>
    let cs := part.toList
    (decodeValue (cs.takeWhile (· != '=')), decodeValue ((cs.dropWhile (· != '=')).drop 1))

end ReviewDesk.Http

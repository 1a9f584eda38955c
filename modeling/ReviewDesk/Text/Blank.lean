/-!
White space. There are two readings: the plain one, and the blank characters that also count the
four information separators.
-/
namespace ReviewDesk.Text

def isWhiteSpace (c : Char) : Bool :=
  let n := c.toNat
  (9 ≤ n && n ≤ 13) || n == 32 || n == 133 || n == 160 || n == 5760 || (8192 ≤ n && n ≤ 8202) ||
    n == 8232 || n == 8233 || n == 8239 || n == 8287 || n == 12288

def isBlank (c : Char) : Bool :=
  isWhiteSpace c || (28 ≤ c.toNat && c.toNat ≤ 31)

/-- Drops from both ends the characters that satisfy `p`. -/
def trimBy (p : Char → Bool) (cs : List Char) : List Char :=
  ((cs.dropWhile p).reverse.dropWhile p).reverse

/-- Drops the blank characters at both ends. -/
def trim (s : String) : String :=
  .ofList (trimBy isBlank s.toList)

/-- Drops the blank characters at the end. -/
def trimEnd (s : String) : String :=
  .ofList (s.toList.reverse.dropWhile isBlank).reverse

/-- Whether a text holds nothing but blank characters. -/
def isBlankText (s : String) : Bool :=
  s.toList.all isBlank

end ReviewDesk.Text

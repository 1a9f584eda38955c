/-!
Source files in the order in which they are reviewed. Every path stands once.
-/
namespace ReviewDesk

abbrev Files := List (String × String)

namespace Files

/-- Sets the content of a path; a new path goes to the end. -/
def insert (path content : String) : Files → Files
  | [] => [(path, content)]
  | (p, c) :: rest => if p == path then (p, content) :: rest else (p, c) :: insert path content rest

def ofPairs (pairs : List (String × String)) : Files :=
  pairs.foldl (fun files f => insert f.1 f.2 files) []

/-- Characters that end a line; a carriage return and a line feed after it are one end. -/
def isLineEnd (c : Char) : Bool :=
  let n := c.toNat
  (10 ≤ n && n ≤ 13) || (28 ≤ n && n ≤ 30) || n == 0x85 || n == 0x2028 || n == 0x2029

/-- Lines of a text whose first part, if `inside`, has been seen already. -/
def linesFrom : Bool → List Char → Nat
  | inside, [] => if inside then 1 else 0
  | _, '\r' :: '\n' :: cs => 1 + linesFrom false cs
  | _, c :: cs => if isLineEnd c then 1 + linesFrom false cs else linesFrom true cs

def countLines (text : String) : Nat := linesFrom false text.toList

def totalLines (files : Files) : Nat := files.foldr (fun f rest => countLines f.2 + rest) 0

end Files

end ReviewDesk

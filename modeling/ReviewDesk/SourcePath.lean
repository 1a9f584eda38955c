import ReviewDesk.Text.LetterCase

/-!
Paths of source files, their parts divided by `/`.
-/
namespace ReviewDesk.SourcePath

/-- The non-empty pieces between the slashes; a lone dot is none. -/
def pieces (path : String) : List String :=
  ((path.toList.splitOn '/').map .ofList).filter fun p => p != "" && p != "."

/-- The pieces in front of the last. -/
def folders (path : String) : List String := (pieces path).dropLast

def fileName (path : String) : String := (pieces path).getLastD ""

/-- A file name cut before its last dot; the second part is empty if the name has no dot inside. -/
def splitName (name : String) : String × String :=
  let cs := name.toList
  let tail := cs.reverse.takeWhile (· != '.')
  let stem := cs.take (cs.length - tail.length - 1)
  if tail.isEmpty || stem.isEmpty || tail.length == cs.length then (name, "")
  else (.ofList stem, .ofList ('.' :: tail.reverse))

/-- The slashes at the start of a path: two are kept, more count as one. -/
def root (path : String) : String :=
  match path.toList with
  | '/' :: '/' :: '/' :: _ => "/"
  | '/' :: '/' :: _ => "//"
  | '/' :: _ => "/"
  | _ => ""

/-- A path without lone dots and needless slashes. -/
def normal (path : String) : String :=
  let text := root path ++ "/".intercalate (pieces path)
  if text.isEmpty then "." else text

def stem (path : String) : String := (splitName (fileName path)).1

/-- The extension with its dot, in lower case. -/
def suffix (path : String) : String := Text.lower (splitName (fileName path)).2

end ReviewDesk.SourcePath

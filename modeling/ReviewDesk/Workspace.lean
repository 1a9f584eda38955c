import ReviewDesk.Files
import ReviewDesk.Model.Language
import ReviewDesk.SourcePath
import ReviewDesk.Text.Utf8

/-!
The folder that the desk works in, and the source files in it. A place is the list of names that
lead to it.
-/
namespace ReviewDesk

structure Workspace where
  files : List (List String × List UInt8) := []
  folders : List (List String) := []

namespace Workspace

/-- Folders are those that are listed and all that lead to something. -/
def isFolder (w : Workspace) (place : List String) : Bool :=
  place.isEmpty || (w.folders ++ w.files.map (·.1.dropLast)).any place.isPrefixOf

def contents? (w : Workspace) (place : List String) : Option (List UInt8) := w.files.lookup place

/-- Follows names from a place; every step starts from a folder, and none leaves the workspace. -/
def follow (w : Workspace) : (place names : List String) → Option (List String)
  | place, [] => some place
  | place, name :: rest =>
    if !w.isFolder place then none
    else if name == ".." then if place.isEmpty then none else follow w place.dropLast rest
    else follow w (place ++ [name]) rest

/-- The place of a path. -/
def place? (w : Workspace) (path : String) : Option (List String) :=
  if path.startsWith "/" then none else w.follow [] (SourcePath.pieces path)

/-- Whether there is something under a path; a slash at its end asks for a folder. -/
def has (w : Workspace) (path : String) : Bool :=
  !path.isEmpty && (w.place? path).any fun place =>
    w.isFolder place || ((w.contents? place).isSome && !path.endsWith "/")

/-- All ends of lines as line feeds. -/
def plainLines : List Char → List Char
  | '\r' :: '\n' :: cs => '\n' :: plainLines cs
  | '\r' :: cs => '\n' :: plainLines cs
  | c :: cs => c :: plainLines cs
  | [] => []

/-- The text of a file; what is no text is replaced. -/
def textOf (bytes : List UInt8) : String :=
  .ofList (plainLines (Text.decodeReplacing bytes).toList)

/-- The order of places: by their first names, then by the next. -/
def comesFirst : List String → List String → Bool
  | [], _ => true
  | _ :: _, [] => false
  | a :: as, b :: bs => a < b || (a == b && comesFirst as bs)

/-- The files below a folder, by the names that lead there from it, in order. -/
def below (w : Workspace) (folder : List String) : List (List String × List UInt8) :=
  (w.files.filterMap fun (place, bytes) =>
    if folder.isPrefixOf place then some (place.drop folder.length, bytes) else none).mergeSort
      fun a b => comesFirst a.1 b.1

/-- Source files, unless they or a folder on the way are hidden. -/
def isReviewable (names : List String) : Bool :=
  names.all (!·.startsWith ".") &&
    reviewableSuffixes.contains (SourcePath.suffix (names.getLastD ""))

/-- A path with further names after it. -/
def extend (path : String) (names : List String) : String :=
  let base := SourcePath.normal path
  if base == "." then "/".intercalate names else "/".intercalate (base :: names)

/-- What a path stands for: a file itself, or the source files below a folder. -/
def sourcesAt (w : Workspace) (path : String) : Files :=
  match w.place? path with
  | none => []
  | some place =>
    match w.contents? place with
    | some bytes => [(SourcePath.normal path, textOf bytes)]
    | none => ((w.below place).filter (isReviewable ·.1)).map fun (names, bytes) =>
        (extend path names, textOf bytes)

/-- The files that some paths stand for. -/
def sources (w : Workspace) (paths : List String) : Files :=
  Files.ofPairs (paths.flatMap w.sourcesAt)

inductive WriteFault where
  | noFolder
  | isFolder
  /-- A file stands where a folder should. -/
  | notFolder
  deriving Repr, DecidableEq

/-- Writes a file into a folder that is there. -/
def write (w : Workspace) (path : String) (bytes : List UInt8) : Except WriteFault Workspace :=
  match w.place? path with
  | none =>
    let names := SourcePath.pieces path
    if (List.range names.length).any fun n => (w.contents? (names.take n)).isSome then
      .error .notFolder
    else .error .noFolder
  | some place =>
    if w.isFolder place then .error .isFolder
    else .ok { w with files := w.files.filter (·.1 != place) ++ [(place, bytes)] }

end Workspace

end ReviewDesk

import ReviewDesk.Text.Blank
import ReviewDesk.Text.Word

/-!
Looking for things in a text. A matcher says whether something begins at the head of a list of
characters and what follows it; `scan` finds all that begin in a text, from the left, none inside
another.
-/
namespace ReviewDesk.Text

/-- What follows a literal text. -/
def afterChars? : List Char → List Char → Option (List Char)
  | [], cs => some cs
  | _ :: _, [] => none
  | w :: ws, c :: cs => if w == c then afterChars? ws cs else none

def after? (word : String) (cs : List Char) : Option (List Char) := afterChars? word.toList cs

/-- What follows one or more blank characters. -/
def afterBlanks? : List Char → Option (List Char)
  | c :: cs => if isBlank c then some (cs.dropWhile isBlank) else none
  | [] => none

/-- Something found in a text, and the line where it begins. -/
structure Hit (α : Type) where
  line : Nat
  value : α
  deriving Repr, DecidableEq

/-- A matcher sees the character before the place, if there is one, and the characters from there
on. -/
abbrev Matcher (α : Type) := Option Char → List Char → Option (α × List Char)

/-- All that `find` recognises in the characters, given how many of them belong to what was found
last, the character before them and their line. -/
def scanFrom {α : Type} (find : Matcher α) :
    Nat → Option Char → Nat → List Char → List (Hit α)
  | _, _, _, [] => []
  | skip + 1, _, line, c :: cs =>
    scanFrom find skip (some c) (if c == '\n' then line + 1 else line) cs
  | 0, before, line, c :: cs =>
    let next := if c == '\n' then line + 1 else line
    match find before (c :: cs) with
    | some (value, rest) =>
      ⟨line, value⟩ :: scanFrom find (cs.length - rest.length) (some c) next cs
    | none => scanFrom find 0 (some c) next cs

def scan {α : Type} (find : Matcher α) (source : String) : List (Hit α) :=
  scanFrom find 0 none 1 source.toList

/-- A matcher for what begins where a line begins. -/
def atLineStart {α : Type} (find : List Char → Option (α × List Char)) : Matcher α :=
  fun before cs => if before.all (· == '\n') then find cs else none

/-- A matcher for what begins where no word goes on from before. -/
def atWordStart {α : Type} (find : List Char → Option (α × List Char)) : Matcher α :=
  fun before cs => if before.any isWord then none else find cs

/-- A matcher for what may begin anywhere. -/
def anywhere {α : Type} (find : List Char → Option (α × List Char)) : Matcher α :=
  fun _ cs => find cs

/-- A word, as long as it goes. -/
def word? (cs : List Char) : Option (String × List Char) :=
  let w := cs.takeWhile isWord
  if w.isEmpty then none else some (.ofList w, cs.drop w.length)

end ReviewDesk.Text

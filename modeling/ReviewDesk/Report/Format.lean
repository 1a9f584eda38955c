import ReviewDesk.Review

/-!
Formats of downloadable reports, their file names, and what all of them share.
-/
namespace ReviewDesk.Report

inductive Format where
  | markdown | html | csv
  deriving Repr, DecidableEq

namespace Format

def all : List Format := [markdown, html, csv]

def name : Format → String
  | markdown => "markdown"
  | html => "html"
  | csv => "csv"

def ofName? (s : String) : Option Format := all.find? (·.name == s)

def mediaType : Format → String
  | markdown => "text/markdown"
  | html => "text/html"
  | csv => "text/csv"

def fileSuffix : Format → String
  | markdown => "_review.md"
  | html => "_review.html"
  | csv => "_findings.csv"

end Format

/-- ASCII letters and digits, the hyphen and the underscore. -/
def isNameChar (c : Char) : Bool := c.isAlphanum || c == '-' || c == '_'

/-- Puts one underscore in the place of every run of blanks; `inRun` says whether one has just been
written for the run that goes on here. -/
def joinBlanks : Bool → List Char → List Char
  | _, [] => []
  | inRun, c :: cs =>
    if Text.isBlank c then (if inRun then [] else ['_']) ++ joinBlanks true cs
    else c :: joinBlanks false cs

/-- A title as the stem of a file name: what is neither a name character nor blank goes, blanks
become underscores, and letters become small. A title with no letter or digit left is `review`. -/
def fileStem (title : String) : String :=
  let kept := title.toList.filter fun c => isNameChar c || Text.isBlank c
  let stem := (joinBlanks false kept).map Char.toLower
  if stem.all fun c => c == '_' || c == '-' then "review" else .ofList stem

def fileName (review : Review) (format : Format) : String :=
  fileStem review.title ++ format.fileSuffix

/-- The day and the minute at which a review was completed or else created. -/
def dateText (review : Review) : String :=
  let m := review.completedAt.getD review.createdAt
  let (year, month, day) := Moment.dateOfDays (m.wall / Moment.day)
  let minutes := m.wall % Moment.day / (60 * Moment.second)
  let two := Moment.padded 2
  s!"{year}-{two month}-{two day} {two (minutes / 60)}:{two (minutes % 60)} UTC"

/-- The findings, the gravest first, else in their order. -/
def ordered (findings : List Finding) : List Finding :=
  findings.mergeSort fun a b => decide (b.severity.priority ≤ a.severity.priority)

end ReviewDesk.Report

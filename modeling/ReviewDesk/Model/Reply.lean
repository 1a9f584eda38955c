import ReviewDesk.Finding
import ReviewDesk.Json.Display
import ReviewDesk.Json.Reader
import ReviewDesk.Text.Digit
import ReviewDesk.Text.LetterCase
import ReviewDesk.Text.Scan

/-!
Reading the reply of the review model: an array of objects, perhaps inside a code fence. Fields of
an unexpected kind are turned into text or left out; only a reply of the wrong shape, or a line
number that looks like one and is none, is refused.
-/
namespace ReviewDesk.Model

/-- Drops the blanks around a reply and the code fence around the rest. -/
def stripFences (text : String) : String :=
  let cs := Text.trimBy Text.isBlank text.toList
  let cs := ((Text.after? "```json" cs) <|> (Text.after? "```" cs)).getD cs
  let cs := ((Text.after? "```" cs.reverse).map List.reverse).getD cs
  .ofList (Text.trimBy Text.isBlank cs)

/-- The text of a value, trimmed and in upper case. -/
def enumText (v : Json) : String := Text.upper (Text.trim v.display)

def severityOf (v : Json) : Severity := (Severity.ofName? (enumText v)).getD .medium

def categoryOf (v : Json) : Category := (Category.ofName? (enumText v)).getD .codeSmell

inductive ReplyFault where
  | json (fault : Json.Fault)
  | notArray
  | notObject
  | badNumber (text : String)
  | longNumber (digits : Nat)
  deriving Repr, DecidableEq

/-- The fault in words; `source` is the text without its fence. -/
def ReplyFault.message (source : String) : ReplyFault → String
  | json fault => fault.message source.toList
  | notArray => "Expected a JSON array of findings."
  | notObject => "Expected every finding to be a JSON object."
  | badNumber text =>
    "invalid literal for int() with base 10: " ++
      String.ofList ((Json.displayQuoted text).toList.take 200)
  | longNumber digits => Json.tooManyDigitsText digits

/-- The number that digits of any script make. -/
def numberOfDigits (text : String) : Except ReplyFault Nat :=
  let cs := text.toList
  let count := (cs.takeWhile fun c => (Text.digitValue? c).isSome).length
  if Json.maxDigits < count then .error (.longNumber count)
  else if count < cs.length then .error (.badNumber text)
  else .ok (cs.foldl (fun n c => 10 * n + (Text.digitValue? c).getD 0) 0)

/-- A line number: a whole number that is not negative, or text that consists of digits. -/
def lineOf : Option Json → Except ReplyFault (Option Nat)
  | some (.int n) => .ok (if 0 ≤ n then some n.toNat else none)
  | some (.str s) =>
    let t := Text.trim s
    if t.isEmpty || !t.toList.all Text.isDigit then .ok none
    else (numberOfDigits t).map some
  | _ => .ok none

/-- The text of a value, if there is any. -/
def textOf : Option Json → Option String
  | none => none
  | some .null => none
  | some v => if v.display.isEmpty then none else some v.display

/-- The text of a value that says something. -/
def wordsOf : Option Json → String
  | some v => if v.isTruthy then v.display else ""
  | none => ""

def metricsOf : Option Json → List String
  | some (.arr items) =>
    items.filterMap fun v => match v with
      | .null => none
      | v => some v.display
  | some (.str s) => if s.isEmpty then [] else [s]
  | _ => []

def titleOf (v : Option Json) : String :=
  let t := Text.trim (wordsOf v)
  if t.isEmpty then "Untitled finding" else .ofList (t.toList.take Issue.titleLimit)

/-- The issue that one object of the reply describes. -/
def issueOf (path : String) (fields : List (String × Json)) : Except ReplyFault Issue := do
  let get := Json.lookup? fields
  let line ← lineOf (get "lineNumber")
  let endLine ← lineOf (get "endLineNumber")
  let severity := severityOf ((get "severity").getD .null)
  return {
    title := titleOf (get "title")
    description := wordsOf (get "description")
    severity
    category := categoryOf ((get "category").getD .null)
    filePath := some path
    line
    endLine
    snippet := textOf (get "codeSnippet")
    suggestedFix := textOf (get "suggestedFix")
    explanation := textOf (get "explanation")
    resources := textOf (get "resourcesUrl")
    impact := some severity.impact
    metrics := metricsOf (get "metricsViolated") }

def itemIssue (path : String) : Json → Except ReplyFault Issue
  | .obj fields => issueOf path fields
  | _ => .error .notObject

/-- The issues of a reply without its fence. -/
def issuesOf (path : String) : Json → Except ReplyFault (List Issue)
  | .arr items => items.mapM (itemIssue path)
  | _ => .error .notArray

def parseReply (path source : String) : Except ReplyFault (List Issue) :=
  match Json.parse source with
  | .ok payload => issuesOf path payload
  | .error fault => .error (.json fault)

end ReviewDesk.Model

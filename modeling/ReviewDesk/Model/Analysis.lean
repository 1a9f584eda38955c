import ReviewDesk.Files
import ReviewDesk.Json.Writer
import ReviewDesk.Model.Basic
import ReviewDesk.Model.Language
import ReviewDesk.Model.Prompt
import ReviewDesk.Model.Reply
import ReviewDesk.Model.Usage

/-!
The pass of a review that asks the model about every file. A file for which the model fails, or
answers something unreadable, has a single issue that says so.
-/
namespace ReviewDesk

/-- Bounds on one review. A negative bound counts from the end. -/
structure Budget where
  findingsPerFile : Int := 10
  repositoryFiles : Int := 20
  fileChars : Int := 100000
  deriving Repr, DecidableEq

/-- The first `n` items, or all but the last `-n`. -/
def firstItems {α : Type} (n : Int) (items : List α) : List α :=
  if 0 ≤ n then items.take n.toNat else items.take (items.length - n.natAbs)

/-- The code up to the bound on its characters, and whether something was cut off. -/
def Budget.truncate (b : Budget) (code : String) : String × Bool :=
  if (code.length : Int) ≤ b.fileChars then (code, false)
  else (.ofList (firstItems b.fileChars code.toList), true)

namespace Model

variable {σ : Type}

/-- A run of the model may break off, but its peer keeps what happened. -/
abbrev Run (σ : Type) := ExceptT Fault (StateM σ)

def ask (m : Model σ) (prompt : String) (instructions : Option String) :
    Run σ (Except Fault Completion) :=
  ExceptT.lift (m.complete prompt instructions)

/-- Adds a call to the usage, if one is kept. -/
def record (c : Completion) : Option Usage → Run σ (Option Usage)
  | none => return none
  | some u =>
    match u.record? c.tokensIn c.tokensOut with
    | some v => return some v
    | none => throw .unpriceable

def errorIssue (path reason : String) : Issue := {
  title := "Analysis Error"
  description := s!"Failed to analyze file: {reason}"
  severity := .info
  category := .codeSmell
  filePath := some path
  impact := some Severity.info.impact }

/-- The single issue of a file that could not be analysed. -/
def failed (path reason : String) (usage : Option Usage) : List Issue × Option Usage :=
  ([errorIssue path reason], usage.map (·.warn s!"Analysis of {path} failed: {reason}"))

def categoryNames : String := ", ".intercalate (Category.all.map Category.name)

/-- The issues that the model sees in one file. -/
def analyzeFile (m : Model σ) (budget : Budget) (path content : String)
    (language : Option String) (usage : Option Usage) :
    Run σ (List Issue × Option Usage) := do
  let language := match language with
    | some l => if l.isEmpty then detectLanguage path else l
    | none => detectLanguage path
  let (code, cut) := budget.truncate content
  let usage := if cut then
      usage.map (·.warn s!"{path} truncated to {budget.fileChars} characters.")
    else usage
  match ← m.ask (filePrompt path language code categoryNames) (some systemPrompt) with
  | .error (.refused message _) => return failed path message usage
  | .error fault => throw fault
  | .ok completion =>
    let usage ← record completion usage
    let source := stripFences completion.text
    match parseReply path source with
    | .error fault => return failed path (fault.message source) usage
    | .ok issues =>
      return (if budget.findingsPerFile < issues.length then
        firstItems budget.findingsPerFile issues else issues, usage)

/-- The issues that the model sees in the files, in their order. -/
def analyzeProject (m : Model σ) (budget : Budget) :
    Files → Option Usage → Run σ (List Issue × Option Usage)
  | [], usage => return ([], usage)
  | (path, content) :: rest, usage => do
    let (issues, usage) ← m.analyzeFile budget path content none usage
    let (more, usage) ← m.analyzeProject budget rest usage
    return (issues ++ more, usage)

/-- The findings as they are put to the model for a summary. -/
def summaryRows (issues : List Issue) : Json :=
  .arr (issues.map fun i => .obj [("title", .str i.title), ("severity", .str i.severity.name),
    ("category", .str i.category.name), ("location", .str i.location),
    ("description", .str i.description)])

/-- A summary of the issues in the model's words. -/
def summarize (m : Model σ) (issues : List Issue) (usage : Option Usage) :
    Run σ (String × Option Usage) := do
  if issues.isEmpty then return (noFindingsSummary, usage)
  match ← m.ask (summaryPrompt (Json.write .indented (summaryRows issues))) none with
  | .error (.refused message _) => return (s!"Error generating summary: {message}", usage)
  | .error fault => throw fault
  | .ok completion => return (completion.text, ← record completion usage)

end Model

end ReviewDesk

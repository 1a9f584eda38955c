import ReviewDesk.Files
import ReviewDesk.Inspection.Java
import ReviewDesk.Inspection.Layering
import ReviewDesk.Inspection.Module

/-!
The checks of a whole project, file by file. A file that cannot be read is skipped with a warning
and adds no issues, but one that is nested too deeply ends the checks.
-/
namespace ReviewDesk.Inspection

open Grammar

def fileIssues (path source : String) : Except SyntaxFault (List Issue) :=
  let layering := layeringIssues path source
  match SourcePath.suffix path with
  | ".py" => (moduleIssues path source).map (· ++ layering)
  | ".java" => .ok (javaIssues path source ++ constructionIssues path source ++ layering)
  | _ => .ok layering

def skipWarning (path : String) (fault : SyntaxFault) : String :=
  s!"Static analysis skipped {path}: {fault.message}"

structure Result where
  issues : List Issue
  warnings : List String
  deriving Repr, DecidableEq

def inspectFile (path source : String) : Result :=
  match fileIssues path source with
  | .ok issues => ⟨issues, []⟩
  | .error fault => ⟨[], [skipWarning path fault]⟩

def inspect (files : Files) : Result :=
  ⟨files.flatMap fun f => (inspectFile f.1 f.2).issues,
    files.flatMap fun f => (inspectFile f.1 f.2).warnings⟩

def isTooDeep (path source : String) : Bool :=
  fileIssues path source matches .error .tooDeep

/-- Inspects the files, unless one of them is nested too deeply to be read. -/
def run (files : Files) : Except Overflow Result :=
  if files.any fun f => isTooDeep f.1 f.2 then .error .overflow else .ok (inspect files)

theorem eq_inspect_of_run {files : Files} {result : Result} (h : run files = .ok result) :
    result = inspect files := by
  unfold run at h
  split at h
  · cases h
  · exact (Except.ok.inj h).symm

end ReviewDesk.Inspection

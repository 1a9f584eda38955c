import Mathlib.Data.List.Forall2
import ReviewDesk.Inspection.Project
import ReviewDesk.Proofs.Issues
import ReviewDesk.Proofs.Nesting

/-!
# The checks of a project

The checks look at one file after the other, and none of them sees another file. A file adds all
that its checks find, or is skipped with a warning when one of them cannot read it. Main statement:
`run_adds`. Only a module that uses up the stack of the reader is not contained like this; it ends
the checks of the whole project.
-/
namespace ReviewDesk.Inspection

open Grammar

/-- What each check that applies to a file says about it. -/
def checks (path source : String) : List (Except SyntaxFault (List Issue)) :=
  (match SourcePath.suffix path with
    | ".py" => [moduleIssues path source]
    | ".java" => [.ok (javaIssues path source), .ok (constructionIssues path source)]
    | _ => []) ++ [.ok (layeringIssues path source)]

/-- A module that uses up the stack of the reader. -/
structure TooDeep (path source : String) : Prop where
  suffix : SourcePath.suffix path = ".py"
  path_text : path.toList.contains '\x00' = false
  overflow : parseModule source = .error .tooDeep

/-- What a file adds to a result: all that its checks found, or a warning that names it. -/
inductive Adds (path source : String) : Result → Prop where
  | all {found : List (List Issue)} (h : checks path source = found.map .ok) :
    Adds path source ⟨found.flatten, []⟩
  | nothing {fault : SyntaxFault} (h : .error fault ∈ checks path source)
    (hfault : fault ≠ .tooDeep) :
    Adds path source ⟨[], ["Static analysis skipped " ++ path ++ ": " ++ fault.message]⟩

/-! ## Titles -/

/-- Whether the first character of a text is not blank. -/
def begins (s : String) : Bool :=
  s.toList.head?.any (!Text.isBlank ·)

theorem begins_append {s : String} (h : begins s = true) (t : String) : begins (s ++ t) = true := by
  unfold begins at h ⊢
  rw [String.toList_append]
  cases hs : s.toList with
  | nil => simp [hs] at h
  | cons c rest => simpa [hs] using h

theorem isOf_place_of_begins {issue : Issue} (h : begins issue.title = true) (path : String)
    (line : Nat) : (place path line issue).IsOf path := by
  unfold begins at h
  cases htitle : issue.title.toList with
  | nil => simp [htitle] at h
  | cons c rest =>
    have hc : Text.isBlank c = false := by simpa [htitle] using h
    exact isOf_place htitle hc path line

variable {name : String} {count : Nat} {issue : Issue}

theorem begins_complexityIssue (h : complexityIssue name count = some issue) :
    begins issue.title = true := by
  unfold complexityIssue at h
  split at h
  · cases h
  · cases h
    exact begins_append (begins_append rfl _) _

theorem begins_parameterIssue (h : parameterIssue name count = some issue) :
    begins issue.title = true := by
  unfold parameterIssue at h
  split at h
  · cases h
  · cases h
    exact begins_append (begins_append rfl _) _

theorem begins_branchIssue (h : branchIssue name count = some issue) :
    begins issue.title = true := by
  unfold branchIssue at h
  split at h
  · cases h
  · cases h
    exact begins_append (begins_append rfl _) _

theorem begins_methodIssue (h : methodIssue name count = some issue) :
    begins issue.title = true := by
  unfold methodIssue at h
  split at h
  · cases h
    exact begins_append (begins_append rfl _) _
  · split at h
    · cases h
      exact begins_append (begins_append rfl _) _
    · cases h

theorem begins_nodeIssues {t : Tree} (h : issue ∈ nodeIssues t) : begins issue.title = true := by
  unfold nodeIssues at h
  split at h
  · obtain ⟨found, hmem, rfl⟩ := List.mem_filterMap.mp h
    simp only [List.mem_cons, List.not_mem_nil, or_false] at hmem
    obtain hc | hp | hb := hmem
    · exact begins_complexityIssue hc.symm
    · exact begins_parameterIssue hp.symm
    · exact begins_branchIssue hb.symm
  · exact begins_methodIssue (Option.mem_toList.mp h)
  · split at h
    · rw [List.mem_singleton.mp h]
      rfl
    · cases h
  · cases h

theorem begins_constructorIssue (name : String) (count : Nat) :
    begins (constructorIssue name count).title = true := by
  dsimp only [constructorIssue]
  exact begins_append (begins_append rfl _) _

theorem begins_genericNameIssue (name : String) :
    begins (genericNameIssue name).title = true := by
  dsimp only [genericNameIssue]
  exact begins_append (begins_append rfl _) _

theorem begins_constructionIssue (service type : String) :
    begins (constructionIssue service type).title = true := by
  dsimp only [constructionIssue]
  rfl

theorem begins_outerLayerIssue (layer : String) :
    begins (outerLayerIssue layer).title = true := by
  dsimp only [outerLayerIssue]
  rfl

/-! ## The issues of each check -/

variable {path source : String}

theorem isOf_moduleIssues {issues : List Issue} (h : moduleIssues path source = .ok issues) :
    ∀ i ∈ issues, i.IsOf path := by
  unfold moduleIssues at h
  split at h
  · cases h
  · cases htree : parseModule source with
    | error fault =>
      rw [htree] at h
      cases h
    | ok tree =>
      rw [htree] at h
      cases h
      intro i hi
      obtain ⟨t, -, hmem⟩ := List.mem_flatMap.mp hi
      obtain ⟨issue, hissue, rfl⟩ := List.mem_map.mp hmem
      exact isOf_place_of_begins (begins_nodeIssues hissue) path t.line

theorem isOf_constructorIssues : ∀ i ∈ constructorIssues path source name, i.IsOf path := by
  intro i hi
  obtain ⟨hit, -, rfl⟩ := List.mem_map.mp hi
  exact isOf_place_of_begins (begins_constructorIssue name hit.value) path hit.line

theorem isOf_javaIssues : ∀ i ∈ javaIssues path source, i.IsOf path := by
  intro i hi
  simp only [javaIssues, List.mem_append, List.mem_map, List.mem_flatMap] at hi
  obtain ((⟨hit, -, rfl⟩ | ⟨hit, -, rfl⟩) | ⟨name, -, hname⟩) | ⟨hit, -, rfl⟩ := hi
  · exact isOf_place_of_begins rfl path hit.line
  · exact isOf_place_of_begins rfl path hit.line
  · exact isOf_constructorIssues i hname
  · exact isOf_place_of_begins (begins_genericNameIssue hit.value) path hit.line

theorem isOf_constructionIssues : ∀ i ∈ constructionIssues path source, i.IsOf path := by
  intro i hi
  unfold constructionIssues at hi
  dsimp only at hi
  split at hi
  · cases hi
  · split at hi
    · rw [List.mem_singleton.mp hi]
      exact isOf_place_of_begins (begins_constructionIssue _ _) path _
    · cases hi

theorem isOf_layeringIssues : ∀ i ∈ layeringIssues path source, i.IsOf path := by
  intro i hi
  unfold layeringIssues at hi
  split at hi
  · cases hi
  · simp only [List.mem_append, List.mem_map] at hi
    obtain ⟨hit, -, rfl⟩ | ⟨hit, -, rfl⟩ := hi
    · exact isOf_place_of_begins (begins_outerLayerIssue hit.value) path hit.line
    · exact isOf_place_of_begins rfl path hit.line

/-- Whichever check finds an issue, it is one of the file. -/
theorem isOf_checks {issues : List Issue} (h : .ok issues ∈ checks path source) :
    ∀ i ∈ issues, i.IsOf path := by
  unfold checks at h
  rw [List.mem_append, List.mem_singleton] at h
  obtain h | h := h
  · split at h
    · exact isOf_moduleIssues (List.mem_singleton.mp h).symm
    · simp only [List.mem_cons, List.not_mem_nil, or_false, Except.ok.injEq] at h
      obtain h | h := h
      · rw [h]
        exact isOf_javaIssues
      · rw [h]
        exact isOf_constructionIssues
    · cases h
  · rw [Except.ok.inj h]
    exact isOf_layeringIssues

/-! ## One file -/

/-- The issues of a file are those of all its checks, unless one of them fails. -/
theorem fileIssues_cases (path source : String) :
    (∃ found : List (List Issue),
      checks path source = found.map .ok ∧ fileIssues path source = .ok found.flatten) ∨
    ∃ fault, .error fault ∈ checks path source ∧ fileIssues path source = .error fault := by
  unfold checks fileIssues
  generalize SourcePath.suffix path = suffix
  generalize layeringIssues path source = layering
  split
  · cases moduleIssues path source with
    | error fault => exact .inr ⟨fault, by simp, rfl⟩
    | ok issues => exact .inl ⟨[issues, layering], rfl, by simp [Except.map]⟩
  · generalize javaIssues path source = java
    generalize constructionIssues path source = construction
    exact .inl ⟨[java, construction, layering], rfl, by simp⟩
  · exact .inl ⟨[layering], rfl, by simp⟩

theorem tooDeep_iff : TooDeep path source ↔
    SourcePath.suffix path = ".py" ∧ moduleIssues path source = .error .tooDeep := by
  unfold moduleIssues
  constructor
  · intro h
    rw [if_neg (Bool.not_eq_true _ ▸ h.path_text), h.overflow]
    exact ⟨h.suffix, rfl⟩
  · rintro ⟨hsuffix, hissues⟩
    split at hissues
    · cases hissues
    · next hnull =>
      cases htree : parseModule source with
      | error fault =>
        rw [htree] at hissues
        cases hissues
        exact ⟨hsuffix, Bool.not_eq_true _ ▸ hnull, htree⟩
      | ok tree =>
        rw [htree] at hissues
        cases hissues

theorem fileIssues_tooDeep_iff :
    fileIssues path source = .error .tooDeep ↔ TooDeep path source := by
  rw [tooDeep_iff]
  unfold fileIssues
  generalize SourcePath.suffix path = suffix
  generalize layeringIssues path source = layering
  split
  · cases moduleIssues path source <;> simp [Except.map]
  · simp
  · next hpy _ => simpa using fun h => (hpy h).elim

theorem isTooDeep_iff : isTooDeep path source = true ↔ TooDeep path source := by
  rw [← fileIssues_tooDeep_iff]
  unfold isTooDeep
  generalize fileIssues path source = issues
  rcases issues with (_ | _ | _ | _) | _ <;> simp

theorem adds_inspectFile (h : ¬TooDeep path source) :
    Adds path source (inspectFile path source) := by
  unfold inspectFile
  obtain ⟨found, hchecks, hissues⟩ | ⟨fault, hmem, hissues⟩ := fileIssues_cases path source
  · rw [hissues]
    exact .all hchecks
  · rw [hissues]
    refine .nothing hmem fun htoo => h ?_
    rw [← fileIssues_tooDeep_iff, hissues, htoo]

theorem isOf_inspectFile : ∀ i ∈ (inspectFile path source).issues, i.IsOf path := by
  unfold inspectFile
  obtain ⟨found, hchecks, hissues⟩ | ⟨fault, hmem, hissues⟩ := fileIssues_cases path source
  · rw [hissues]
    intro i hi
    obtain ⟨issues, hissues, hmem⟩ := List.mem_flatten.mp hi
    exact isOf_checks (by rw [hchecks]; exact List.mem_map_of_mem hissues) i hmem
  · rw [hissues]
    simp

/-! ## All files -/

theorem run_eq_ok {files : Files} (h : ∀ f ∈ files, ¬TooDeep f.1 f.2) :
    run files = .ok (inspect files) := by
  rw [run, if_neg]
  simpa [isTooDeep_iff] using h

theorem run_single {path source : String} (h : ¬TooDeep path source) :
    run [(path, source)] = .ok (inspectFile path source) := by
  rw [run_eq_ok (by simpa using h)]
  simp [inspect]

theorem isTooDeep_negatedOne : isTooDeep "a.py" (.ofList (negatedOne 10000)) = true := by
  rw [isTooDeep_iff]
  exact ⟨by decide +kernel, by decide, parseModule_negatedOne 4000⟩

end ReviewDesk.Inspection

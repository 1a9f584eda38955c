import Mathlib
import ReviewDesk.Inspection.Java
import ReviewDesk.Inspection.Layering
import ReviewDesk.Proofs.Scanning

/-!
# Issues point at their cause

The checks that read a source as text report issues of a few kinds. Each kind begins with a word of
its own, and an issue has the number of a line that shows the word. The issues come kind by kind,
and those of one kind in the order of their lines.
-/
namespace ReviewDesk.Inspection

open Text

/-- What an issue is about. Constructors are told apart by the name of their class. -/
inductive Kind where
  | injection
  | emptyCatch
  | constructor (className : String)
  | genericName
  | construction
  | outerLayer
  | framework
  deriving Repr, DecidableEq

theorem nodup_eraseDups (names : List String) : names.eraseDups.Nodup := by
  induction hlength : names.length using Nat.strong_induction_on generalizing names with
  | h n ih =>
    cases names with
    | nil => exact List.nodup_nil
    | cons name rest =>
      rw [List.eraseDups_cons, List.nodup_cons, List.mem_eraseDups]
      refine ⟨fun h => ?_, ih _ ?_ _ rfl⟩
      · simpa using (List.mem_filter.mp h).2
      · rw [← hlength, List.length_cons]
        exact Nat.lt_succ_of_le (List.length_filter_le _ _)

theorem nodup_distinctNames (names : List String) : (distinctNames names).Nodup :=
  (List.mergeSort_perm _ _).nodup_iff.mpr (nodup_eraseDups names)

namespace Kind

/-- Words with which the cause of an issue begins. -/
def words : Kind → List String
  | injection => ["@Autowired"]
  | emptyCatch => ["catch"]
  | constructor _ => ["public", "protected", "private"]
  | genericName => ["class"]
  | construction => ["new"]
  | outerLayer | framework => ["import", "from"]

/-- A line with the cause of an issue. Imports stand at the beginning of their line, behind spaces
and tabs. -/
def ShownOn : Kind → List Char → Prop
  | outerLayer, line | framework, line =>
    ∃ w ∈ words outerLayer, w.toList <+: line.dropWhile isIndent
  | kind, line => ∃ w ∈ kind.words, w.toList <:+: line

/-- The titles of the issues of a kind. -/
def Titled : Kind → String → Prop
  | injection, title => title = "Field Injection with @Autowired"
  | emptyCatch, title => title = "Empty Catch Block"
  | constructor name, title =>
    title = fitTitle s!"Complex Constructor in '{name}' Could Use Builder"
  | genericName, title => ∃ name : String, title = fitTitle s!"Generic Class Name '{name}'"
  | construction, title =>
    title = "Possible Dependency Inversion Violation: Using 'new' in Service"
  | outerLayer, title => title = "Layer Dependency Violation: Domain Depends on Outer Layers"
  | framework, title => title = "Framework Dependency in Domain Layer"

/-- The issues of one kind. -/
def issues (path source : String) : Kind → List Issue
  | injection => (scan (anywhere injectedField?) source).map (place path ·.line injectionIssue)
  | emptyCatch => (scan (anywhere emptyCatch?) source).map (place path ·.line emptyCatchIssue)
  | constructor name => constructorIssues path source name
  | genericName => (scan (atWordStart genericClassName?) source).map
      fun hit => place path hit.line (genericNameIssue hit.value)
  | construction => constructionIssues path source
  | outerLayer =>
    if isDomainFile path then ((scan (atLineStart outerImport?) source).take 1).map
      fun hit => place path hit.line (outerLayerIssue hit.value)
    else []
  | framework =>
    if isDomainFile path then ((scan (atLineStart frameworkImport?) source).take 1).map
      (place path ·.line frameworkIssue)
    else []

/-- The kinds of issues that a Java source can have, in the order of the checks. -/
def ofJava (source : String) : List Kind :=
  [injection, emptyCatch] ++
    (distinctNames ((scan (atWordStart className?) source).map (·.value))).map constructor ++
    [genericName]

theorem javaIssues_eq (path source : String) :
    javaIssues path source = (ofJava source).flatMap (issues path source) := by
  simp [javaIssues, ofJava, issues, List.flatMap_map]

theorem layeringIssues_eq (path source : String) :
    layeringIssues path source = [outerLayer, framework].flatMap (issues path source) := by
  cases hpath : isDomainFile path <;> simp [layeringIssues, issues, hpath]

theorem nodup_ofJava (source : String) : (ofJava source).Nodup := by
  have hconstructors := (nodup_distinctNames
    ((scan (atWordStart className?) source).map (·.value))).map fun _ _ => constructor.inj
  simp [ofJava, List.nodup_append, hconstructors]

/-- The issue is of the kind, and the line that it names is a line of the source that shows its
cause. -/
def Explains (kind : Kind) (source : String) (issue : Issue) : Prop :=
  kind.Titled issue.title ∧ ∃ n line, issue.line = some n ∧
    1 ≤ n ∧ n ≤ source.toList.count '\n' + 1 ∧
    (lines source)[n - 1]? = some line ∧ kind.ShownOn line

/-- One issue is not on an earlier line than the other. -/
def Follows (earlier later : Issue) : Prop := ∀ n ∈ earlier.line, ∀ m ∈ later.line, n ≤ m

/-- The issues explain themselves, in the order of their lines. -/
def Explained (kind : Kind) (source : String) (issues : List Issue) : Prop :=
  (∀ i ∈ issues, kind.Explains source i) ∧ issues.Pairwise Follows

theorem explained_nil (kind : Kind) (source : String) : kind.Explained source [] :=
  ⟨fun _ h => absurd h List.not_mem_nil, .nil⟩

/-- Issues that are made from what is found, or from some of it, explain themselves. -/
theorem explained_place {α : Type} {kind : Kind} {find : Matcher α} {source : String}
    (path : String) (hits : List (Hit α)) (issue : Hit α → Issue)
    (hshown : Shown kind.ShownOn find)
    (htitled : ∀ hit, kind.Titled (fitTitle (issue hit).title))
    (hhits : hits.Sublist (scan find source)) :
    kind.Explained source (hits.map fun hit => place path hit.line (issue hit)) := by
  constructor
  · intro i hi
    obtain ⟨hit, hhit, rfl⟩ := List.mem_map.mp hi
    obtain ⟨hleast, hmost, line, hline, hshows⟩ :=
      exists_line_of_mem_scan hshown (hhits.subset hhit)
    exact ⟨htitled hit, hit.line, line, rfl, hleast, hmost, hline, hshows⟩
  · have hsorted := (pairwise_scanFrom find 0 none 1 source.toList).sublist hhits
    refine List.pairwise_map.mpr (hsorted.imp fun hle => ?_)
    rintro n ⟨⟩ m ⟨⟩
    exact hle

/-! ## What each kind begins with -/

theorem feed_not_mem_words (kind : Kind) : ∀ w ∈ kind.words, '\n' ∉ w.toList := by
  have hconstructor : ∀ w ∈ ["public", "protected", "private"], '\n' ∉ w.toList := by decide
  cases kind with
  | constructor name => exact hconstructor
  | _ => decide

theorem shown_injection : Shown injection.ShownOn (anywhere injectedField?) := by
  refine shown_of_prefix _ injection.feed_not_mem_words fun before cs value more h => ?_
  obtain ⟨rest, hrest, -⟩ := Option.bind_eq_some_iff.mp h
  exact ⟨_, List.mem_singleton.mpr rfl, rest, hrest⟩

theorem shown_emptyCatch : Shown emptyCatch.ShownOn (anywhere emptyCatch?) := by
  refine shown_of_prefix _ emptyCatch.feed_not_mem_words fun before cs value more h => ?_
  obtain ⟨rest, hrest, -⟩ := Option.bind_eq_some_iff.mp h
  exact ⟨_, List.mem_singleton.mpr rfl, rest, hrest⟩

theorem shown_constructor (name : String) :
    Shown (constructor name).ShownOn (anywhere (constructor? name)) := by
  refine shown_of_prefix _ (constructor name).feed_not_mem_words fun before cs value more h => ?_
  obtain ⟨rest, hrest, -⟩ := Option.bind_eq_some_iff.mp h
  simp only [Option.orElse_eq_orElse, Option.orElse_eq_or, Option.or_eq_some_iff] at hrest
  obtain hpublic | ⟨-, hprotected | ⟨-, hprivate⟩⟩ := hrest
  · exact ⟨"public", by simp [words], rest, hpublic⟩
  · exact ⟨"protected", by simp [words], rest, hprotected⟩
  · exact ⟨"private", by simp [words], rest, hprivate⟩

theorem shown_genericName : Shown genericName.ShownOn (atWordStart genericClassName?) := by
  refine shown_of_prefix _ genericName.feed_not_mem_words fun before cs value more h => ?_
  obtain ⟨found, hfound, -⟩ := Option.bind_eq_some_iff.mp (eq_some_of_atWordStart h)
  obtain ⟨rest, hrest, -⟩ := Option.bind_eq_some_iff.mp hfound
  exact ⟨_, List.mem_singleton.mpr rfl, rest, hrest⟩

theorem shown_construction : Shown construction.ShownOn (atWordStart newInstance?) := by
  refine shown_of_prefix _ construction.feed_not_mem_words fun before cs value more h => ?_
  obtain ⟨rest, hrest, -⟩ := Option.bind_eq_some_iff.mp (eq_some_of_atWordStart h)
  exact ⟨_, List.mem_singleton.mpr rfl, rest, hrest⟩

theorem exists_of_imported {keywords : List String} {cs rest : List Char}
    (h : imported? keywords cs = some rest) :
    ∃ w ∈ keywords, ∃ more, after? w (cs.dropWhile isIndent) = some more := by
  obtain ⟨more, hmore, -⟩ := Option.bind_eq_some_iff.mp h
  obtain ⟨w, hw, hafter⟩ := List.exists_of_findSome?_eq_some hmore
  exact ⟨w, hw, more, hafter⟩

theorem shown_outerLayer : Shown outerLayer.ShownOn (atLineStart outerImport?) := by
  refine shown_atLineStart _ outerLayer.feed_not_mem_words fun cs value more h => ?_
  obtain ⟨rest, hrest, -⟩ := Option.bind_eq_some_iff.mp h
  exact exists_of_imported hrest

theorem shown_framework : Shown framework.ShownOn (atLineStart frameworkImport?) := by
  refine shown_atLineStart _ outerLayer.feed_not_mem_words fun cs value more h => ?_
  have hsome : (imported? ["import"] cs).isSome = true ∨
      (imported? ["import", "from"] cs).isSome = true := by
    unfold frameworkImport? at h
    cases himport : imported? ["import"] cs <;> cases hfrom : imported? ["import", "from"] cs <;>
      simp_all
  obtain himport | himport := hsome
  · obtain ⟨rest, hrest⟩ := Option.isSome_iff_exists.mp himport
    obtain ⟨w, hw, hafter⟩ := exists_of_imported hrest
    exact ⟨w, List.mem_cons.mpr (.inl (List.mem_singleton.mp hw)), hafter⟩
  · obtain ⟨rest, hrest⟩ := Option.isSome_iff_exists.mp himport
    exact exists_of_imported hrest

theorem titled_construction (service type : String) :
    construction.Titled (fitTitle (constructionIssue service type).title) := by
  have htitle : fitTitle "Possible Dependency Inversion Violation: Using 'new' in Service" =
      "Possible Dependency Inversion Violation: Using 'new' in Service" := rfl
  exact htitle

theorem titled_outerLayer (layer : String) :
    outerLayer.Titled (fitTitle (outerLayerIssue layer).title) := by
  have htitle : fitTitle "Layer Dependency Violation: Domain Depends on Outer Layers" =
      "Layer Dependency Violation: Domain Depends on Outer Layers" := rfl
  exact htitle

theorem explained_issues (path source : String) (kind : Kind) :
    kind.Explained source (kind.issues path source) := by
  cases kind with
  | injection => exact explained_place path _ _ shown_injection (fun _ => rfl) (.refl _)
  | emptyCatch => exact explained_place path _ _ shown_emptyCatch (fun _ => rfl) (.refl _)
  | constructor name =>
    exact explained_place path _ _ (shown_constructor name) (fun _ => rfl) List.filter_sublist
  | genericName =>
    exact explained_place path _ _ shown_genericName (fun hit => ⟨hit.value, rfl⟩) (.refl _)
  | construction =>
    rw [issues, constructionIssues]
    split
    · exact explained_nil _ _
    · split
      · rename_i hit hfind
        exact explained_place path [hit] (fun hit => constructionIssue _ hit.value)
          shown_construction (fun _ => titled_construction _ _)
          (List.singleton_sublist.mpr (List.mem_of_find?_eq_some hfind))
      · exact explained_nil _ _
  | outerLayer =>
    rw [issues]
    split
    · exact explained_place path _ _ shown_outerLayer (fun _ => titled_outerLayer _)
        (List.take_sublist _ _)
    · exact explained_nil _ _
  | framework =>
    rw [issues]
    split
    · exact explained_place path _ _ shown_framework (fun _ => rfl) (List.take_sublist _ _)
    · exact explained_nil _ _

end Kind

/-- Every issue that a check of the text of a source reports is of one of the kinds: it has a title
of the kind and names a line of the source that shows its cause. The issues of a Java source come
kind by kind, each kind once, where constructors are told apart by the name of the class; those of a
service are of one kind, and those of domain code of two. All issues of a kind have its title and
show its cause, and they come in the order of their lines. -/
theorem issues_point_at_cause (path source : String) :
    (∀ i ∈ javaIssues path source ++ constructionIssues path source ++ layeringIssues path source,
      ∃ kind : Kind, kind.Explains source i) ∧
    javaIssues path source = (Kind.ofJava source).flatMap (Kind.issues path source) ∧
    (Kind.ofJava source).Nodup ∧
    constructionIssues path source = Kind.issues path source .construction ∧
    layeringIssues path source =
      [Kind.outerLayer, Kind.framework].flatMap (Kind.issues path source) ∧
    ∀ kind : Kind, kind.Explained source (kind.issues path source) := by
  have hexplained := Kind.explained_issues path source
  have hjava := Kind.javaIssues_eq path source
  have hlayering := Kind.layeringIssues_eq path source
  refine ⟨fun i hi => ?_, hjava, Kind.nodup_ofJava source, rfl, hlayering, hexplained⟩
  rw [List.mem_append, List.mem_append, hjava, hlayering, List.mem_flatMap, List.mem_flatMap] at hi
  obtain (⟨kind, -, hi⟩ | hi) | ⟨kind, -, hi⟩ := hi
  · exact ⟨kind, (hexplained kind).1 i hi⟩
  · exact ⟨.construction, (hexplained .construction).1 i hi⟩
  · exact ⟨kind, (hexplained kind).1 i hi⟩

end ReviewDesk.Inspection

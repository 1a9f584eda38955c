import ReviewDesk.Inspection.Module
import ReviewDesk.Proofs.Charges

/-!
# The issues of a module and its violations

A node of the tree breaks a rule or it does not, whatever stands around it. Main statement:
`moduleIssues_one_to_one`. The issues of a module are one for each rule that is broken at a place of
its tree, each on the line of its node, those of higher places first.
-/
namespace ReviewDesk.Inspection

open Grammar Tree

/-- The rules that a node of a tree can break. -/
inductive Rule where
  | complexity
  | parameters
  | conditionals
  | methods
  | silence
  deriving Repr, DecidableEq

def Rule.all : List Rule := [complexity, parameters, conditionals, methods, silence]

/-- The conditional statements that a definition owns. -/
def ownConditionals (t : Tree) : Nat :=
  t.nodes.countP fun x => isIfStatement x.2 && owner? t x.1 == some []

/-- The functions directly in the body of a class. -/
def methodCount (t : Tree) : Nat := t.parts.countP isFunction

def Breaks (t : Tree) (rule : Rule) : Prop :=
  match rule, t.form with
  | .complexity, .function _ _ => 20 < complexity t
  | .parameters, .function _ names => 5 < parameterCount names
  | .conditionals, .function _ _ => 5 < ownConditionals t
  | .methods, .classDef _ => 15 < methodCount t
  | .silence, .handler bare => bare = true ∨ ∀ s ∈ t.parts.drop 1, s.form = .pass
  | _, _ => False

/-- The name of what a form defines. -/
def definedName : Form → String
  | .function name _ => name
  | .classDef name => name
  | _ => ""

/-- What an issue is called before its title is made to fit. -/
def Rule.heading (t : Tree) : Rule → String
  | complexity => s!"High Cyclomatic Complexity in '{definedName t.form}'"
  | parameters => s!"Long Parameter List in '{definedName t.form}'"
  | conditionals => s!"Conditional Chain in '{definedName t.form}' Could Use Strategy Pattern"
  | methods =>
    if 20 < methodCount t then s!"God Class: '{definedName t.form}'"
    else s!"Possible Single Responsibility Violation in '{definedName t.form}'"
  | silence => "Exception Swallowed by Handler"

def Rule.severity (t : Tree) : Rule → Severity
  | complexity => if 30 < Inspection.complexity t then .high else .medium
  | parameters => .medium
  | conditionals => .info
  | methods => if 20 < methodCount t then .high else .medium
  | silence => .medium

def Rule.category (t : Tree) : Rule → Category
  | complexity => .codeSmell
  | parameters => .codeSmell
  | conditionals => .designPattern
  | methods => if 20 < methodCount t then .codeSmell else .architecture
  | silence => .errorHandling

/-- The issue says that the node breaks the rule. -/
structure Reports (path : String) (t : Tree) (rule : Rule) (i : Issue) : Prop where
  path : i.filePath = some path
  line : i.line = some t.line
  title : i.title = fitTitle (rule.heading t)
  severity : i.severity = rule.severity t
  category : i.category = rule.category t

/-! ## One node -/

theorem ownConditionals_eq {t : Tree} (h : isDefinition t = true) :
    ownConditionals t = branches t := by
  rw [branches_eq, own_eq_filter h, List.countP_map, List.countP_filter, ownConditionals]
  refine List.countP_congr fun x _ => ?_
  cases hif : isIfStatement x.2 with
  | false => simp [hif]
  | true =>
    have hdef : isDefinition x.2 = false := by
      unfold isIfStatement at hif
      unfold isDefinition
      split at hif <;> simp_all
    simp [hif, hdef]

/-- What the checks say about one rule at a node. -/
def Rule.issue? (t : Tree) (rule : Rule) : Option Issue :=
  match rule, t.form with
  | .complexity, .function name _ => complexityIssue name (Inspection.complexity t)
  | .parameters, .function name names => parameterIssue name (parameterCount names)
  | .conditionals, .function name _ => branchIssue name (branches t)
  | .methods, .classDef name => methodIssue name (methodCount t)
  | .silence, .handler bare => if isSwallowing bare t.parts then some swallowedIssue else none
  | _, _ => none

theorem nodeIssues_eq (t : Tree) : nodeIssues t = Rule.all.filterMap (Rule.issue? t) := by
  obtain ⟨form, line, parts⟩ := t
  cases form
  case function => rfl
  case classDef => rfl
  case handler bare =>
    rw [nodeIssues]
    simp [Rule.all, Rule.issue?, List.filterMap_cons, Tree.form]
    split <;> simp_all
  all_goals rfl

section Kinds

variable {name : String} {count : Nat} {i : Issue}

theorem complexityIssue_eq_some (h : complexityIssue name count = some i) :
    i.title = s!"High Cyclomatic Complexity in '{name}'" ∧
      i.severity = (if 30 < count then .high else .medium) ∧ i.category = .codeSmell := by
  unfold complexityIssue at h
  split at h
  · cases h
  · cases h
    exact ⟨rfl, rfl, rfl⟩

theorem parameterIssue_eq_some (h : parameterIssue name count = some i) :
    i.title = s!"Long Parameter List in '{name}'" ∧ i.severity = .medium ∧
      i.category = .codeSmell := by
  unfold parameterIssue at h
  split at h
  · cases h
  · cases h
    exact ⟨rfl, rfl, rfl⟩

theorem branchIssue_eq_some (h : branchIssue name count = some i) :
    i.title = s!"Conditional Chain in '{name}' Could Use Strategy Pattern" ∧ i.severity = .info ∧
      i.category = .designPattern := by
  unfold branchIssue at h
  split at h
  · cases h
  · cases h
    exact ⟨rfl, rfl, rfl⟩

theorem methodIssue_eq_some (h : methodIssue name count = some i) :
    i.title = (if 20 < count then s!"God Class: '{name}'"
      else s!"Possible Single Responsibility Violation in '{name}'") ∧
    i.severity = (if 20 < count then .high else .medium) ∧
    i.category = (if 20 < count then .codeSmell else .architecture) := by
  unfold methodIssue graveMethodBound at h
  split at h
  · next hgrave =>
    cases h
    rw [if_pos hgrave, if_pos hgrave, if_pos hgrave]
    exact ⟨rfl, rfl, rfl⟩
  · next hgrave =>
    rw [if_neg hgrave, if_neg hgrave, if_neg hgrave]
    split at h
    · cases h
      exact ⟨rfl, rfl, rfl⟩
    · cases h

theorem isSome_methodIssue_iff : (methodIssue name count).isSome ↔ 15 < count := by
  unfold methodIssue graveMethodBound methodBound
  split
  · next h => simpa using Nat.lt_trans (by decide) h
  · split <;> simp_all

theorem isSwallowing_iff {bare : Bool} {parts : List Tree} :
    isSwallowing bare parts = true ↔ bare = true ∨ ∀ s ∈ parts.drop 1, s.form = .pass := by
  unfold isSwallowing
  rw [Bool.or_eq_true, List.all_eq_true]
  refine or_congr_right (forall₂_congr fun s _ => ?_)
  cases s.form <;> simp

end Kinds

/-- A node is reported for a rule exactly if it breaks it. -/
theorem isSome_issue?_iff (t : Tree) (rule : Rule) :
    (rule.issue? t).isSome ↔ Breaks t rule := by
  unfold Rule.issue? Breaks
  split
  · simp [complexityIssue, complexityBound]
  · simp [parameterIssue, parameterBound]
  · next name names hform =>
    -- The conditionals are counted over all nodes here and over the nodes of the function there.
    have hdef : isDefinition t = true := by simp [isDefinition, hform]
    simp [branchIssue, branchBound, ownConditionals_eq hdef]
  · exact isSome_methodIssue_iff
  · rw [← isSwallowing_iff]
    simp
  · simp

instance (t : Tree) : DecidablePred (Breaks t) :=
  fun rule => decidable_of_iff _ (isSome_issue?_iff t rule)

theorem reports_place {path : String} {t : Tree} {rule : Rule} {i : Issue}
    (h : rule.issue? t = some i) : Reports path t rule (place path t.line i) := by
  have hissue : i.title = rule.heading t ∧ i.severity = rule.severity t ∧
      i.category = rule.category t := by
    obtain ⟨form, line, parts⟩ := t
    unfold Rule.issue? at h
    split at h
    · next name names hform =>
      cases hform
      exact complexityIssue_eq_some h
    · next name names hform =>
      cases hform
      exact parameterIssue_eq_some h
    · next name names hform =>
      cases hform
      exact branchIssue_eq_some h
    · next name hform =>
      cases hform
      exact methodIssue_eq_some h
    · split at h
      · cases h
        exact ⟨rfl, rfl, rfl⟩
      · cases h
    · cases h
  obtain ⟨htitle, hseverity, hcategory⟩ := hissue
  exact ⟨rfl, rfl, congrArg fitTitle htitle, hseverity, hcategory⟩

/-- The rules that a node breaks. -/
def broken (t : Tree) : List Rule := Rule.all.filter (Breaks t ·)

theorem mem_broken {t : Tree} {rule : Rule} : rule ∈ broken t ↔ Breaks t rule := by
  have hall : rule ∈ Rule.all := by cases rule <;> decide
  simp [broken, hall]

theorem nodup_broken (t : Tree) : (broken t).Nodup :=
  List.Nodup.filter _ (by decide)

/-- The issues of a node are one for each rule that it breaks. -/
theorem nodeIssues_reports (path : String) (t : Tree) :
    List.Forall₂ (Reports path t) (broken t) ((nodeIssues t).map (place path t.line)) := by
  rw [nodeIssues_eq, broken]
  generalize Rule.all = rules
  induction rules with
  | nil => exact .nil
  | cons rule rules ih =>
    cases hissue : rule.issue? t with
    | none =>
      have hnot : ¬Breaks t rule := by simp [← isSome_issue?_iff, hissue]
      rwa [List.filter_cons_of_neg (by simpa using hnot), List.filterMap_cons_none hissue]
    | some i =>
      have hbreaks : Breaks t rule := by simp [← isSome_issue?_iff, hissue]
      rw [List.filter_cons_of_pos (by simpa using hbreaks), List.filterMap_cons_some hissue]
      exact .cons (reports_place hissue) ih

/-! ## The whole tree -/

/-- Where which rules are broken, in the order in which the checks come to them. -/
def violations (tree : Tree) : List (Place × Rule) :=
  (walkAt tree).flatMap fun x => (broken x.2).map fun rule => (x.1, rule)

theorem mem_violations {tree : Tree} {p : Place} {rule : Rule} :
    (p, rule) ∈ violations tree ↔ ∃ t, tree.at? p = some t ∧ Breaks t rule := by
  simp only [violations, List.mem_flatMap, List.mem_map, Prod.mk.injEq, mem_walkAt, mem_broken]
  constructor
  · rintro ⟨x, hx, r, hr, rfl, rfl⟩
    exact ⟨x.2, hx, hr⟩
  · rintro ⟨t, ht, hr⟩
    exact ⟨(p, t), ht, rule, hr, rfl, rfl⟩

theorem nodup_violations (tree : Tree) : (violations tree).Nodup := by
  rw [violations, List.nodup_flatMap]
  constructor
  · intro x _
    exact (nodup_broken x.2).map (Prod.mk_right_injective x.1)
  · refine (List.pairwise_map.mp (nodup_walkAt tree)).imp fun {x y} hne => ?_
    intro a hx hy
    obtain ⟨_, -, rfl⟩ := List.mem_map.mp hx
    obtain ⟨_, -, hy⟩ := List.mem_map.mp hy
    exact hne (Prod.mk.inj hy).1.symm

theorem violations_sorted (tree : Tree) :
    (violations tree).Pairwise fun a b => a.1.length ≤ b.1.length := by
  rw [violations, List.pairwise_flatMap]
  constructor
  · intro x _
    exact List.pairwise_map.mpr (List.pairwise_of_forall fun _ _ => le_rfl)
  · refine (walkAt_sorted tree).imp fun {x y} hle => ?_
    intro a hx b hy
    obtain ⟨_, -, rfl⟩ := List.mem_map.mp hx
    obtain ⟨_, -, rfl⟩ := List.mem_map.mp hy
    exact hle

theorem treeIssues_reports (path : String) (tree : Tree) :
    List.Forall₂ (fun a i => ∃ t, tree.at? a.1 = some t ∧ Reports path t a.2 i)
      (violations tree) (treeIssues path tree) := by
  have hplaces : ∀ x ∈ walkAt tree, tree.at? x.1 = some x.2 := fun x => mem_walkAt.mp
  rw [violations, treeIssues, ← map_walkAt, List.flatMap_map]
  generalize walkAt tree = xs at hplaces
  induction xs with
  | nil => exact .nil
  | cons x xs ih =>
    obtain ⟨hx, hxs⟩ := List.forall_mem_cons.mp hplaces
    rw [List.flatMap_cons, List.flatMap_cons]
    refine List.rel_append ?_ (ih hxs)
    rw [List.forall₂_map_left_iff]
    exact (nodeIssues_reports path x.2).imp fun rule i hi => ⟨x.2, hx, hi⟩

end ReviewDesk.Inspection

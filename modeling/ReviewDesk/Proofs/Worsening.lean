import Mathlib.Algebra.BigOperators.Group.List.Lemmas
import Mathlib.Data.List.Perm.Basic
import ReviewDesk.Hiring
import ReviewDesk.Proofs.Checking
import ReviewDesk.Proofs.Scores

/-!
# More or graver issues are never rewarded

All that is said about a set of issues rests on a few totals: what each issue costs in the
categories that count, and how many issues there are of the gravest kinds. A total does not depend
on the order of the issues, and it does not fall when an issue is added or becomes graver.
Sub-scores fall as totals rise, rounding keeps the order of the weighted average, and grades, levels
and estimates follow the numbers they are read from.
-/
namespace ReviewDesk

namespace Issue

/-- One issue more, or one of them graver than it was. -/
inductive Worse : List Issue → List Issue → Prop
  | more (issues : List Issue) (i : Issue) : Worse issues (issues ++ [i])
  | graver (before after : List Issue) (i : Issue) {severity : Severity}
      (h : i.severity.priority < severity.priority) :
      Worse (before ++ i :: after) (before ++ { i with severity } :: after)

/-- What the issues of some categories cost in all. -/
def charge (counts : Category → Bool) (cost : Severity → Int) (issues : List Issue) : Int :=
  (issues.map fun i => if counts i.category then cost i.severity else 0).sum

/-- A cost that is nowhere negative and does not fall with the gravity of an issue. -/
structure Rising (cost : Severity → Int) : Prop where
  nonneg : ∀ s, 0 ≤ cost s
  graver : ∀ s t : Severity, s.priority ≤ t.priority → cost s ≤ cost t

variable {counts : Category → Bool} {cost : Severity → Int} {issues issues' : List Issue}

@[simp] theorem charge_nil : charge counts cost [] = 0 := rfl

@[simp] theorem charge_cons (i : Issue) (issues : List Issue) :
    charge counts cost (i :: issues) =
      (if counts i.category then cost i.severity else 0) + charge counts cost issues :=
  List.sum_cons

@[simp] theorem charge_append (issues issues' : List Issue) :
    charge counts cost (issues ++ issues') =
      charge counts cost issues + charge counts cost issues' := by
  rw [charge, List.map_append, List.sum_append]
  rfl

theorem charge_perm (h : issues.Perm issues') :
    charge counts cost issues = charge counts cost issues' :=
  (h.map _).sum_eq

theorem charge_mono (counts : Category → Bool) (hcost : Rising cost) (h : Worse issues issues') :
    charge counts cost issues ≤ charge counts cost issues' := by
  cases h with
  | more _ i =>
    have hi := hcost.nonneg i.severity
    simp only [charge_append, charge_cons, charge_nil]
    split <;> omega
  | graver before after i h =>
    have hi := hcost.graver _ _ h.le
    simp only [charge_append, charge_cons]
    split <;> omega

@[simp] theorem countOf_cons (s : Severity) (i : Issue) (issues : List Issue) :
    countOf s (i :: issues) = countOf s issues + if i.severity = s then 1 else 0 := by
  simp [countOf, List.countP_cons]

theorem countOf_perm (s : Severity) (h : issues.Perm issues') :
    countOf s issues = countOf s issues' :=
  h.countP_eq _

/-- Issues of one severity are counted by charging one for each. -/
theorem countOf_eq_charge (s : Severity) (issues : List Issue) :
    (countOf s issues : Int) = charge (fun _ => true) (fun t => if t = s then 1 else 0) issues := by
  induction issues with
  | nil => rfl
  | cons i issues ih =>
    simp only [countOf_cons, charge_cons, ↓reduceIte]
    split <;> push_cast <;> omega

theorem rising_critical : Rising fun t => if t = Severity.critical then 1 else 0 where
  nonneg s := by cases s <;> decide
  graver s t := by cases s <;> cases t <;> decide

end Issue

/-- None of the sub-scores is higher than in other ones. -/
structure SubScores.NoHigher (p q : SubScores) : Prop where
  security : p.security ≤ q.security
  performance : p.performance ≤ q.performance
  maintainability : p.maintainability ≤ q.maintainability
  bestPractices : p.bestPractices ≤ q.bestPractices
  testCoverage : p.testCoverage ≤ q.testCoverage

namespace Score

open Issue (charge Rising Worse)

theorem rising_deduction : Rising deduction where
  nonneg := deduction_nonneg
  graver s t := by cases s <;> cases t <;> decide

theorem rising_maintenanceDeduction : Rising maintenanceDeduction where
  nonneg := maintenanceDeduction_nonneg
  graver s t := by cases s <;> cases t <;> decide

/-- What is left is the full points less all that is charged. -/
theorem remaining_eq (full : Int) (counts : Category → Bool) (cost : Severity → Int)
    (issues : List Issue) :
    remaining full counts cost issues = max 0 (full - charge counts cost issues) := by
  have hfold (n : Int) :
      issues.foldl (fun n i => if counts i.category then n - cost i.severity else n) n =
        n - charge counts cost issues := by
    induction issues generalizing n with
    | nil => simp
    | cons i issues ih =>
      rw [List.foldl_cons, ih, Issue.charge_cons]
      split <;> omega
  rw [remaining, hfold]

variable {issues issues' : List Issue}

theorem partsOf_perm (h : issues.Perm issues') : partsOf issues = partsOf issues' := by
  simp only [partsOf, ofCategory, remaining_eq, Issue.charge_perm h]

theorem remaining_mono (full : Int) (counts : Category → Bool) {cost : Severity → Int}
    (hcost : Rising cost) (h : Worse issues issues') :
    remaining full counts cost issues' ≤ remaining full counts cost issues := by
  have hcharge := Issue.charge_mono counts hcost h
  rw [remaining_eq, remaining_eq]
  omega

theorem partsOf_mono (h : Worse issues issues') :
    (partsOf issues').NoHigher (partsOf issues) := by
  have hcategory (c : Category) : ofCategory c issues' ≤ ofCategory c issues :=
    remaining_mono 100 (· == c) rising_deduction h
  exact
    { security := hcategory _
      performance := hcategory _
      maintainability := remaining_mono 100 isMaintenance rising_maintenanceDeduction h
      bestPractices := hcategory _
      testCoverage := remaining_mono testingBaseline (· == .testing) rising_deduction h }

/-- Every product and every partial sum keeps the order, and so does dropping the fraction. -/
theorem overallOf_mono {p q : SubScores} (h : p.NoHigher q) : overallOf p ≤ overallOf q := by
  have hproduct {a b : Int} (weight : Int) (hweight : 0 ≤ weight) (hab : a ≤ b) :
      Decimal.round53Int (Decimal.round53Int a * weight) ≤
        Decimal.round53Int (Decimal.round53Int b * weight) :=
    Decimal.round53Int_mono (Int.mul_le_mul_of_nonneg_right (Decimal.round53Int_mono hab) hweight)
  have hsum {a b c d : Int} (hab : a ≤ b) (hcd : c ≤ d) :
      Decimal.round53Int (a + c) ≤ Decimal.round53Int (b + d) :=
    Decimal.round53Int_mono (Int.add_le_add hab hcd)
  have htwo := hsum (hproduct quarter (by decide) h.security)
    (hproduct fifth (by decide) h.performance)
  have hthree := hsum htwo (hproduct quarter (by decide) h.maintainability)
  have hfour := hsum hthree (hproduct fifth (by decide) h.bestPractices)
  have hfive := hsum hfour (hproduct tenth (by decide) h.testCoverage)
  exact Int.tdiv_le_tdiv (by decide) hfive

/-- The place of a grade among all grades, the lowest being 0. -/
def gradeRank (grade : String) : Nat :=
  gradeBounds.length - (gradeBounds.map (·.2)).idxOf grade

/-- The grade by a table of bounds. -/
def gradeBy (bounds : List (Int × String)) (n : Int) : String :=
  ((bounds.find? (·.1 ≤ n)).map (·.2)).getD "F"

theorem gradeOf_eq (n : Int) : gradeOf n = gradeBy gradeBounds n := by
  unfold gradeOf gradeBy
  cases gradeBounds.find? (·.1 ≤ n) <;> rfl

/-- Where the bounds descend, the bounds in front of a grade are those that its score misses. -/
theorem idxOf_gradeBy (n : Int) {bounds : List (Int × String)}
    (hdescend : bounds.Pairwise fun b c => c.1 < b.1) (hnames : (bounds.map (·.2)).Nodup)
    (hlast : "F" ∉ bounds.map (·.2)) :
    (bounds.map (·.2)).idxOf (gradeBy bounds n) + bounds.countP (·.1 ≤ n) = bounds.length := by
  induction bounds with
  | nil => rfl
  | cons b rest ih =>
    rw [List.pairwise_cons] at hdescend
    rw [List.map_cons, List.nodup_cons] at hnames
    rw [List.map_cons, List.mem_cons, not_or] at hlast
    by_cases hb : b.1 ≤ n
    · have hgrade : gradeBy (b :: rest) n = b.2 := by simp [gradeBy, hb]
      have hall : rest.countP (·.1 ≤ n) = rest.length := by
        refine List.countP_eq_length.mpr fun c hc => ?_
        have hbelow := hdescend.1 c hc
        simp only [decide_eq_true_eq]
        omega
      simp [hgrade, hb, hall]
    · have hgrade : gradeBy (b :: rest) n = gradeBy rest n := by simp [gradeBy, hb]
      have hother : b.2 ≠ gradeBy rest n := by
        unfold gradeBy
        cases hfound : rest.find? (·.1 ≤ n) with
        | none => exact Ne.symm hlast.1
        | some c =>
          rintro heq
          exact hnames.1 (heq ▸ List.mem_map_of_mem (List.mem_of_find?_eq_some hfound))
      have hrest := ih hdescend.2 hnames.2 hlast.2
      rw [hgrade, List.map_cons, List.idxOf_cons_ne _ hother,
        List.countP_cons_of_neg (by simpa using hb), List.length_cons]
      omega

/-- A grade is as high as there are bounds that its score meets. -/
theorem gradeRank_gradeOf (n : Int) :
    gradeRank (gradeOf n) = gradeBounds.countP (·.1 ≤ n) := by
  have hplace : (gradeBounds.map (·.2)).idxOf (gradeBy gradeBounds n) +
      gradeBounds.countP (·.1 ≤ n) = gradeBounds.length :=
    idxOf_gradeBy n (by decide) (by decide) (by decide)
  rw [gradeRank, gradeOf_eq]
  omega

theorem gradeRank_mono {a b : Int} (h : a ≤ b) : gradeRank (gradeOf a) ≤ gradeRank (gradeOf b) := by
  rw [gradeRank_gradeOf, gradeRank_gradeOf]
  refine List.countP_mono_left fun bound _ hbound => ?_
  simp only [decide_eq_true_eq] at *
  omega

end Score

namespace Hiring

open Issue (charge Rising)

/-- The weeks that an improvement takes at most. -/
def Improvement.weeks (i : Improvement) : Nat :=
  match i.time with
  | "< 1 week" => 1
  | "1-2 weeks" => 2
  | "2-3 weeks" => 3
  | _ => 6

/-- How far somebody is on the way to an interview. -/
def Readiness.rank (r : Readiness) : Nat :=
  match r.status with
  | "Ready" => 2
  | "Almost Ready" => 1
  | _ => 0

theorem level_mono {a b : Int} (h : a ≤ b) : (level a).percentile ≤ (level b).percentile := by
  unfold level
  split_ifs <;> simp <;> omega

theorem improvement_mono {critical high critical' high' : Int}
    (h : critical * 3 + high * 2 ≤ critical' * 3 + high' * 2) :
    (improvement critical high).weeks ≤ (improvement critical' high').weeks := by
  unfold improvement
  dsimp only
  split_ifs <;> simp [Improvement.weeks] <;> omega

theorem readiness_mono {critical security critical' security' : Int} (hpos : 0 ≤ critical)
    (hcritical : critical ≤ critical') (hsecurity : security' ≤ security) :
    (readiness critical' security').rank ≤ (readiness critical security).rank := by
  unfold readiness
  simp only [Bool.and_eq_true, beq_iff_eq, decide_eq_true_eq]
  split_ifs <;> simp [Readiness.rank] <;> omega

/-- What an issue adds to the number that the time of an improvement is read from. -/
def effort : Severity → Int
  | .critical => 3
  | .high => 2
  | _ => 0

theorem rising_effort : Rising effort where
  nonneg s := by cases s <;> decide
  graver s t := by cases s <;> cases t <;> decide

theorem effort_eq_charge (issues : List Issue) :
    (Issue.countOf .critical issues : Int) * 3 + Issue.countOf .high issues * 2 =
      charge (fun _ => true) effort issues := by
  induction issues with
  | nil => rfl
  | cons i issues ih =>
    simp only [Issue.countOf_cons, Issue.charge_cons, ↓reduceIte]
    cases i.severity <;> simp [effort] <;> omega

end Hiring

/-- What an employer would read from some issues and their score. -/
def impactOf (issues : List Issue) : Hiring.Impact :=
  Hiring.assess (some (Score.ofIssues issues)) issues

/-- Nothing that is said about some issues is better than what is said about others. -/
structure NoBetter (issues' issues : List Issue) : Prop where
  parts : (Score.ofIssues issues').parts.NoHigher (Score.ofIssues issues).parts
  overall : (Score.ofIssues issues').overall ≤ (Score.ofIssues issues).overall
  grade : Score.gradeRank (Score.ofIssues issues').grade ≤
    Score.gradeRank (Score.ofIssues issues).grade
  percentile : (impactOf issues').hireability.percentile ≤
    (impactOf issues).hireability.percentile
  improvement : (impactOf issues).improvement.weeks ≤ (impactOf issues').improvement.weeks
  readiness : (impactOf issues').readiness.rank ≤ (impactOf issues).readiness.rank

theorem Issue.Worse.noBetter {issues issues' : List Issue} (h : Worse issues issues') :
    NoBetter issues' issues := by
  have hparts := Score.partsOf_mono h
  have hoverall := Score.overallOf_mono hparts
  have hcritical := charge_mono (fun _ => true) rising_critical h
  have heffort := charge_mono (fun _ => true) Hiring.rising_effort h
  rw [← countOf_eq_charge, ← countOf_eq_charge] at hcritical
  rw [← Hiring.effort_eq_charge, ← Hiring.effort_eq_charge] at heffort
  exact
    { parts := hparts
      overall := hoverall
      grade := Score.gradeRank_mono hoverall
      percentile := Hiring.level_mono hoverall
      improvement := Hiring.improvement_mono heffort
      readiness := Hiring.readiness_mono (Int.natCast_nonneg _) hcritical hparts.security }

theorem ofIssues_perm {issues issues' : List Issue} (h : issues.Perm issues') :
    Score.ofIssues issues = Score.ofIssues issues' :=
  congrArg Score.ofParts (Score.partsOf_perm h)

theorem impactOf_perm {issues issues' : List Issue} (h : issues.Perm issues') :
    impactOf issues = impactOf issues' := by
  simp only [impactOf, Hiring.assess, ofIssues_perm h, Issue.countOf_perm _ h]

/-- Scores that are in range pass their check unchanged. -/
theorem Score.check_of_valid {s : Score} (h : s.Valid) : s.check = .good s := by
  have hrange {n : Int} (hn : 0 ≤ n ∧ n ≤ 100) : checkRange n = .good n := by
    have hmost : ¬ 100 < n := Int.not_lt.mpr hn.2
    have hleast : ¬ n < 0 := Int.not_lt.mpr hn.1
    simp [checkRange, Field.checkAtMost, Field.checkAtLeast, hmost, hleast]
  unfold check
  rw [hrange h.overall, hrange h.security, hrange h.performance, hrange h.maintainability,
    hrange h.bestPractices, hrange h.testCoverage]
  rfl

/-- A score is given for any issues, with all numbers in range and at most the baseline for tests.
It does not depend on the order of the issues, and neither does what an employer would read from
it. Whatever is said does not get better when an issue is added or becomes graver. -/
theorem Score.calculate_orderless_monotone (issues : List Issue) :
    calculate (partsOf issues) = .good (ofIssues issues) ∧
    (ofIssues issues).Valid ∧ (ofIssues issues).parts.testCoverage ≤ 70 ∧
    (∀ issues', issues.Perm issues' →
      ofIssues issues' = ofIssues issues ∧ impactOf issues' = impactOf issues) ∧
    ∀ issues', Issue.Worse issues issues' → NoBetter issues' issues := by
  have hvalid := valid_ofIssues issues
  have htesting :=
    remaining_range testingBaseline (by decide) (· == .testing) deduction_nonneg issues
  refine ⟨check_of_valid hvalid, hvalid, htesting.2, ?_, fun issues' h => h.noBetter⟩
  intro issues' h
  exact ⟨ofIssues_perm h.symm, impactOf_perm h.symm⟩

section Example

def slowLoop : Issue := { title := "Slow loop", severity := .low, category := .performance }

def openDoor : Issue :=
  { title := "Open door", severity := .high, category := .securityVulnerability }

/-- Two issues change places, one of them becomes critical, and a third one joins them. -/
theorem Score.calculate_orderless_monotone_twoIssues :
    ofIssues [openDoor, slowLoop] = ofIssues [slowLoop, openDoor] ∧
    NoBetter [slowLoop, { openDoor with severity := .critical }] [slowLoop, openDoor] ∧
    NoBetter [slowLoop, openDoor, slowLoop] [slowLoop, openDoor] := by
  obtain ⟨-, -, -, hperm, hworse⟩ := calculate_orderless_monotone [slowLoop, openDoor]
  refine ⟨(hperm _ (.swap ..)).1, hworse _ (.graver [slowLoop] [] openDoor (by decide)), ?_⟩
  exact hworse _ (.more [slowLoop, openDoor] slowLoop)

end Example

end ReviewDesk

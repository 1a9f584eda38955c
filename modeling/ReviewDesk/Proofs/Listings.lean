import Mathlib
import ReviewDesk.Report.FixingPrompt
import ReviewDesk.Report.Html

/-!
# Every finding once, in the order that is promised

A stable sort of a list by an order is described without a way to make it: the same items, in order,
and items that are tied stay as they were. There is exactly one such list. Reports list the findings
of a review as they are sorted by severity, and the request to fix them, which goes from severity to
severity, lists them as they are sorted by severity and then by the importance of the category.
-/
namespace ReviewDesk

/-! ## Stable sorts -/

section StableSort

variable {α : Type} {le : α → α → Bool} {xs ys zs : List α}

/-- Neither of two items goes before the other. -/
def tied (le : α → α → Bool) (a b : α) : Bool := le a b && le b a

/-- The second list is the first one, sorted by the order, with ties left as they were. -/
structure StableSort (le : α → α → Bool) (xs ys : List α) : Prop where
  perm : ys.Perm xs
  sorted : ys.Pairwise fun a b => le a b = true
  stable : ∀ a, ys.filter (tied le a) = xs.filter (tied le a)

/-- What a list can be sorted by. -/
structure Ranking (le : α → α → Bool) : Prop where
  trans : ∀ a b c, le a b = true → le b c = true → le a c = true
  total : ∀ a b, (le a b || le b a) = true

theorem Ranking.refl (hle : Ranking le) (a : α) : le a a = true := by
  simpa using hle.total a a

theorem Ranking.tied_self (hle : Ranking le) (a : α) : tied le a a = true := by
  rw [tied, hle.refl, Bool.and_self]

/-- Where every item has its ties in order, no item is lost and none comes in. -/
theorem Ranking.perm_of_stable [DecidableEq α] (hle : Ranking le)
    (h : ∀ a, ys.filter (tied le a) = xs.filter (tied le a)) : ys.Perm xs := by
  refine List.perm_iff_count.mpr fun a => ?_
  have hcount (l : List α) : l.count a = (l.filter (tied le a)).count a :=
    (List.count_filter (hle.tied_self a)).symm
  rw [hcount ys, hcount xs, h a]

theorem Ranking.stableSort_mergeSort (hle : Ranking le) (xs : List α) :
    StableSort le xs (xs.mergeSort le) where
  perm := List.mergeSort_perm xs le
  sorted := List.pairwise_mergeSort hle.trans hle.total xs
  stable a := by
    have htied : (xs.filter (tied le a)).Pairwise fun b c => le b c = true := by
      refine List.pairwise_of_forall_mem_list fun b hb c hc => ?_
      have hba := (Bool.and_eq_true_iff.mp (List.mem_filter.mp hb).2).2
      have hac := (Bool.and_eq_true_iff.mp (List.mem_filter.mp hc).2).1
      exact hle.trans b a c hba hac
    have hsub : (xs.filter (tied le a)).Sublist ((xs.mergeSort le).filter (tied le a)) := by
      have hsorted := (List.sublist_mergeSort hle.trans hle.total htied List.filter_sublist).filter
        (tied le a)
      simpa only [List.filter_filter, Bool.and_self] using hsorted
    exact (hsub.eq_of_length
      ((List.mergeSort_perm xs le).filter (tied le a)).length_eq.symm).symm

/-- Lists that are sorted and agree about ties are the same. -/
theorem Ranking.eq_of_sorted (hle : Ranking le) (hys : ys.Pairwise fun a b => le a b = true)
    (hzs : zs.Pairwise fun a b => le a b = true) (hperm : ys.Perm zs)
    (h : ∀ a, ys.filter (tied le a) = zs.filter (tied le a)) : ys = zs := by
  induction ys generalizing zs with
  | nil => exact hperm.symm.eq_nil.symm
  | cons y ys ih =>
    cases zs with
    | nil => exact absurd hperm.eq_nil (List.cons_ne_nil y ys)
    | cons z zs =>
      -- Both heads are least, so they are tied, and ties agree.
      have hyz : le y z = true := by
        rcases List.mem_cons.mp (hperm.symm.subset List.mem_cons_self) with rfl | hz
        · exact hle.refl z
        · exact List.rel_of_pairwise_cons hys hz
      have hzy : le z y = true := by
        rcases List.mem_cons.mp (hperm.subset List.mem_cons_self) with rfl | hy
        · exact hle.refl y
        · exact List.rel_of_pairwise_cons hzs hy
      have hheads := h y
      rw [List.filter_cons_of_pos (hle.tied_self y),
        List.filter_cons_of_pos (by rw [tied, hyz, hzy]; rfl)] at hheads
      obtain rfl := (List.cons.inj hheads).1
      refine congrArg (y :: ·) (ih hys.of_cons hzs.of_cons hperm.cons_inv fun a => ?_)
      have hrest := h a
      rw [List.filter_cons, List.filter_cons] at hrest
      split at hrest
      · exact (List.cons.inj hrest).2
      · exact hrest

/-- There is one stable sort. -/
theorem Ranking.stableSort_iff_eq (hle : Ranking le) (h : StableSort le xs ys) :
    StableSort le xs zs ↔ zs = ys := by
  constructor
  · intro hzs
    exact hle.eq_of_sorted hzs.sorted h.sorted (hzs.perm.trans h.perm.symm)
      fun a => (hzs.stable a).trans (h.stable a).symm
  · rintro rfl
    exact h

end StableSort

/-! ## Orders of findings -/

namespace Finding

/-- The graver finding goes first. -/
def graverFirst (f g : Finding) : Bool := decide (g.severity.priority ≤ f.severity.priority)

/-- The finding whose category is more important goes first. -/
def importantFirst (f g : Finding) : Bool :=
  decide (FixingPrompt.importance f.category ≤ FixingPrompt.importance g.category)

/-- The graver finding goes first, and of two that are equally grave the more important one. -/
def urgentFirst (f g : Finding) : Bool :=
  decide (g.severity.priority < f.severity.priority) ||
    (g.severity.priority == f.severity.priority && f.importantFirst g)

theorem ranking_graverFirst : Ranking graverFirst where
  trans f g h hfg hgh := by
    simp only [graverFirst, decide_eq_true_eq] at *
    omega
  total f g := by
    simp only [graverFirst, Bool.or_eq_true, decide_eq_true_eq]
    omega

theorem ranking_importantFirst : Ranking importantFirst where
  trans f g h hfg hgh := by
    simp only [importantFirst, decide_eq_true_eq] at *
    omega
  total f g := by
    simp only [importantFirst, Bool.or_eq_true, decide_eq_true_eq]
    omega

theorem ranking_urgentFirst : Ranking urgentFirst where
  trans f g h hfg hgh := by
    simp only [urgentFirst, importantFirst, Bool.or_eq_true, Bool.and_eq_true, decide_eq_true_eq,
      beq_iff_eq] at *
    omega
  total f g := by
    simp only [urgentFirst, importantFirst, Bool.or_eq_true, Bool.and_eq_true, decide_eq_true_eq,
      beq_iff_eq]
    omega

end Finding

theorem Severity.priority_inj {s t : Severity} : s.priority = t.priority ↔ s = t := by
  cases s <;> cases t <;> decide

namespace Report

/-! ## Reports -/

theorem stableSort_ordered (fs : List Finding) : StableSort Finding.graverFirst fs (ordered fs) :=
  Finding.ranking_graverFirst.stableSort_mergeSort fs

/-- The markdown document of a review has a numbered section for each of some findings, in their
order, or says that there are none. -/
def Markdown.Lists (r : Review) (order : List Finding) : Prop :=
  render r =
    if order = [] then "\n".intercalate (headLines r ++ ["- No issues found."]) ++ "\n"
    else "\n".intercalate (headLines r ++ (order.zipIdx 1).flatMap fun p =>
      s!"### {p.2}. {p.1.title}" :: (findingLines p.2 p.1).tail)

theorem Markdown.numberedLines_eq (n : Nat) (fs : List Finding) :
    numberedLines n fs = (fs.zipIdx n).flatMap fun p =>
      s!"### {p.2}. {p.1.title}" :: (findingLines p.2 p.1).tail := by
  induction fs generalizing n with
  | nil => rfl
  | cons f fs ih =>
    rw [numberedLines, ih, List.zipIdx_cons, List.flatMap_cons]
    rfl

theorem Markdown.lists_ordered (r : Review) : Markdown.Lists r (ordered r.findings) := by
  have hnone : ordered r.findings = [] ↔ r.findings.isEmpty = true := by
    rw [List.isEmpty_iff, ← List.length_eq_zero_iff, ← List.length_eq_zero_iff,
      (stableSort_ordered r.findings).perm.length_eq]
  simp only [Lists, render, hnone, numberedLines_eq]

/-- The page of a review has a block for each of some findings, in their order. -/
def Html.Lists (r : Review) (order : List Finding) : Prop :=
  render r = String.join (List.map (fun l => writeLine l ++ "\n") (
    headLines r ++ r.score.elim [] scoreLines ++
    [[.markup "<h2>Findings (", number order.length, .markup ")</h2>"]] ++
    (if order.isEmpty then [[.markup "<p>No issues found.</p>"]] else []) ++
    order.flatMap findingLines ++ [[.markup "</body>"], [.markup "</html>"]]))

theorem Html.lists_ordered (r : Review) : Html.Lists r (ordered r.findings) := by
  have hlength := (stableSort_ordered r.findings).perm.length_eq
  have hnone : (ordered r.findings).isEmpty = r.findings.isEmpty :=
    (stableSort_ordered r.findings).perm.isEmpty_eq
  rw [Lists, hlength, hnone]
  rfl

end Report

/-! ## Requests to fix findings -/

namespace FixingPrompt

/-- The severities that findings have, the gravest first. -/
def present (fs : List Finding) : List Severity :=
  Severity.all.filter fun s => fs.any (·.severity == s)

/-- The findings of one severity, with their numbers. -/
def part (s : Severity) (numbered : List (Finding × Nat)) : List (Finding × Nat) :=
  numbered.filter (·.1.severity == s)

def size (s : Severity) (fs : List Finding) : Nat := (fs.filter (·.severity == s)).length

/-- The request has a section for each severity that findings have, with some findings in their
order, and their numbers go through. Its summary has the numbers of findings of each severity, and
their sum. -/
structure Lists (r : Review) (order : List Finding) : Prop where
  text : render r = "\n".intercalate (headLines r ++ taskLines ++
    (present order).flatMap (fun s => [s!"### {s.name} Priority Issues", ""] ++
      (part s (order.zipIdx 1)).flatMap fun p =>
        s!"#### Issue #{p.2}: {p.1.title}" :: (findingLines p.2 p.1).tail) ++ finalLines)
  parts : (present order).flatMap (fun s => part s (order.zipIdx 1)) = order.zipIdx 1
  summary : ["## Issues Summary", s!"**Total Issues:** {order.length}", "", "**By Severity:**"] ++
    Severity.all.map (fun s => s!"- {s.name}: {size s order} ({severityLabel s})") <:+ headLines r
  total : (Severity.all.map fun s => size s order).sum = order.length

/-- The findings in the order of the request. -/
def listed (r : Review) : List Finding := Severity.all.flatMap (group r)

theorem stableSort_group (r : Review) (s : Severity) :
    StableSort Finding.importantFirst (r.withSeverity s) (group r s) :=
  Finding.ranking_importantFirst.stableSort_mergeSort _

theorem severity_of_mem_group {r : Review} {s : Severity} {f : Finding} (h : f ∈ group r s) :
    f.severity = s :=
  eq_of_beq (List.mem_filter.mp ((stableSort_group r s).perm.subset h)).2

theorem tied_urgentFirst (f g : Finding) :
    tied Finding.urgentFirst f g =
      (g.severity == f.severity && tied Finding.importantFirst f g) := by
  rw [Bool.eq_iff_iff]
  simp only [tied, Finding.urgentFirst, Finding.importantFirst, Bool.and_eq_true, Bool.or_eq_true,
    decide_eq_true_eq, beq_iff_eq, ← Severity.priority_inj]
  omega

/-- Going from severity to severity is sorting by severity and importance. -/
theorem stableSort_listed (r : Review) : StableSort Finding.urgentFirst r.findings (listed r) := by
  have hstable (f : Finding) : (listed r).filter (tied Finding.urgentFirst f) =
      r.findings.filter (tied Finding.urgentFirst f) := by
    have hother {s : Severity} (hs : s ≠ f.severity) :
        (group r s).filter (tied Finding.urgentFirst f) = [] := by
      refine List.filter_eq_nil_iff.mpr fun g hg => ?_
      rw [tied_urgentFirst, severity_of_mem_group hg, beq_false_of_ne hs]
      exact Bool.false_ne_true
    have hown : (group r f.severity).filter (tied Finding.urgentFirst f) =
        r.findings.filter (tied Finding.urgentFirst f) := by
      have hcongr : (group r f.severity).filter (tied Finding.urgentFirst f) =
          (group r f.severity).filter (tied Finding.importantFirst f) := by
        refine List.filter_congr fun g hg => ?_
        rw [tied_urgentFirst, severity_of_mem_group hg, BEq.rfl, Bool.true_and]
      rw [hcongr, (stableSort_group r f.severity).stable f, Review.withSeverity,
        List.filter_filter]
      refine List.filter_congr fun g _ => ?_
      rw [tied_urgentFirst, Bool.and_comm]
    rw [listed, List.filter_flatMap]
    cases hs : f.severity <;> simp only [hs] at hother hown <;>
      simp [Severity.all, hother, hown]
  refine ⟨Finding.ranking_urgentFirst.perm_of_stable hstable, ?_, hstable⟩
  refine List.pairwise_flatMap.mpr ⟨fun s _ => ?_, ?_⟩
  · refine (stableSort_group r s).sorted.imp_of_mem fun {f g} hf hg hfg => ?_
    simpa [Finding.urgentFirst, severity_of_mem_group hf, severity_of_mem_group hg] using hfg
  · have hall : Severity.all.Pairwise fun s t => t.priority < s.priority := by decide
    refine hall.imp fun {s t} hst f hf g hg => ?_
    simp [Finding.urgentFirst, severity_of_mem_group hf, severity_of_mem_group hg, hst]

theorem numberedLines_eq (n : Nat) (fs : List Finding) :
    numberedLines n fs = (fs.zipIdx n).flatMap fun p =>
      s!"#### Issue #{p.2}: {p.1.title}" :: (findingLines p.2 p.1).tail := by
  induction fs generalizing n with
  | nil => rfl
  | cons f fs ih =>
    rw [numberedLines, ih, List.zipIdx_cons, List.flatMap_cons]
    rfl

section Parts

variable {r : Review} {s t : Severity} {rest : List Severity}

theorem severity_of_mem_zipIdx {n : Nat} {p : Finding × Nat} (h : p ∈ (group r s).zipIdx n) :
    p.1.severity = s :=
  severity_of_mem_group (List.fst_mem_of_mem_zipIdx h)

theorem part_group (n : Nat) : part s ((group r s).zipIdx n) = (group r s).zipIdx n :=
  List.filter_eq_self.mpr fun _ hp => beq_iff_eq.mpr (severity_of_mem_zipIdx hp)

theorem part_other (hst : s ≠ t) (n : Nat) : part t ((group r s).zipIdx n) = [] :=
  List.filter_eq_nil_iff.mpr fun _ hp heq => hst
    ((severity_of_mem_zipIdx hp).symm.trans (eq_of_beq heq))

theorem part_rest (hs : s ∉ rest) (n : Nat) : part s ((rest.flatMap (group r)).zipIdx n) = [] := by
  refine List.filter_eq_nil_iff.mpr fun p hp heq => ?_
  obtain ⟨t, ht, hf⟩ := List.mem_flatMap.mp (List.fst_mem_of_mem_zipIdx hp)
  exact hs ((severity_of_mem_group hf).symm.trans (eq_of_beq heq) ▸ ht)

theorem isEmpty_group (r : Review) (s : Severity) :
    (group r s).isEmpty = !r.findings.any (·.severity == s) := by
  rw [(stableSort_group r s).perm.isEmpty_eq, Review.withSeverity]
  induction r.findings with
  | nil => rfl
  | cons f fs ih => cases hf : f.severity == s <;> simp [hf, ih]

/-- What is made of the parts, one severity after the other. -/
theorem flatMap_part {β : Type} (block : Severity → List (Finding × Nat) → List β)
    (hs : s ∉ rest) (n : Nat) :
    ((s :: rest).filter fun t => r.findings.any (·.severity == t)).flatMap
        (fun t => block t (part t (((s :: rest).flatMap (group r)).zipIdx n))) =
      (if (group r s).isEmpty then [] else block s ((group r s).zipIdx n)) ++
      (rest.filter fun t => r.findings.any (·.severity == t)).flatMap
        (fun t => block t (part t ((rest.flatMap (group r)).zipIdx (n + (group r s).length)))) := by
  have hown : part s (((s :: rest).flatMap (group r)).zipIdx n) = (group r s).zipIdx n := by
    rw [List.flatMap_cons, List.zipIdx_append, part, List.filter_append]
    exact (congrArg₂ (· ++ ·) (part_group n) (part_rest hs _)).trans (List.append_nil _)
  have hrest (t : Severity) (ht : t ∈ rest) : part t (((s :: rest).flatMap (group r)).zipIdx n) =
      part t ((rest.flatMap (group r)).zipIdx (n + (group r s).length)) := by
    have hst : s ≠ t := fun heq => hs (heq ▸ ht)
    rw [List.flatMap_cons, List.zipIdx_append, part, List.filter_append]
    exact congrArg (· ++ _) (part_other hst n)
  have hblocks := List.flatMap_congr (l := rest.filter fun t => r.findings.any (·.severity == t))
    fun t ht => congrArg (block t) (hrest t (List.mem_filter.mp ht).1)
  rw [isEmpty_group, List.filter_cons]
  cases r.findings.any (·.severity == s) with
  | false => exact hblocks
  | true => exact congrArg₂ (· ++ ·) (congrArg (block s) hown) hblocks

theorem groups_eq (r : Review) {severities : List Severity} (h : severities.Nodup) (n : Nat) :
    groups r n severities =
      (severities.filter fun s => r.findings.any (·.severity == s)).flatMap fun s =>
        [s!"### {s.name} Priority Issues", ""] ++
          (part s ((severities.flatMap (group r)).zipIdx n)).flatMap fun p =>
            s!"#### Issue #{p.2}: {p.1.title}" :: (findingLines p.2 p.1).tail := by
  induction severities generalizing n with
  | nil => rfl
  | cons s rest ih =>
    obtain ⟨hs, hrest⟩ := List.nodup_cons.mp h
    rw [groups, ih hrest, numberedLines_eq, flatMap_part (fun s numbered =>
      [s!"### {s.name} Priority Issues", ""] ++ numbered.flatMap fun p =>
        s!"#### Issue #{p.2}: {p.1.title}" :: (findingLines p.2 p.1).tail) hs]

/-- The parts make up the whole. -/
theorem flatMap_part_self (r : Review) {severities : List Severity} (h : severities.Nodup)
    (n : Nat) :
    (severities.filter fun s => r.findings.any (·.severity == s)).flatMap
        (fun s => part s ((severities.flatMap (group r)).zipIdx n)) =
      (severities.flatMap (group r)).zipIdx n := by
  induction severities generalizing n with
  | nil => rfl
  | cons s rest ih =>
    obtain ⟨hs, hrest⟩ := List.nodup_cons.mp h
    have hwhole : (if (group r s).isEmpty then [] else (group r s).zipIdx n) =
        (group r s).zipIdx n := by
      cases group r s <;> rfl
    rw [flatMap_part (fun _ numbered => numbered) hs, ih hrest, hwhole, List.flatMap_cons,
      List.zipIdx_append]

end Parts

theorem present_listed (r : Review) :
    present (listed r) = Severity.all.filter fun s => r.findings.any (·.severity == s) := by
  refine List.filter_congr fun s _ => ?_
  rw [Bool.eq_iff_iff, List.any_eq_true, List.any_eq_true]
  simp only [(stableSort_listed r).perm.mem_iff]

theorem severityCounts_eq {r : Review} {order : List Finding} (h : order.Perm r.findings) :
    Issue.severityCounts r.issues = Severity.all.map fun s => (s, size s order) := by
  refine List.map_congr_left fun s _ => ?_
  rw [Review.issues, List.countP_map, size, ← List.countP_eq_length_filter, h.countP_eq]
  rfl

theorem sum_size (fs : List Finding) : (Severity.all.map fun s => size s fs).sum = fs.length := by
  induction fs with
  | nil => rfl
  | cons f fs ih =>
    simp only [Severity.all, List.map_cons, List.map_nil, List.sum_cons, List.sum_nil, size,
      List.length_cons] at ih ⊢
    cases hf : f.severity <;> simp [hf] <;> omega

theorem lists_listed (r : Review) : Lists r (listed r) where
  text := by rw [render, groups_eq r (by decide), present_listed]; rfl
  parts := by rw [present_listed]; exact flatMap_part_self r (by decide) 1
  summary := by
    have hperm := (stableSort_listed r).perm
    rw [headLines, severityCounts_eq hperm, List.map_map, hperm.length_eq, List.append_assoc]
    exact List.suffix_append _ _
  total := sum_size (listed r)

end FixingPrompt

/-- Reports and requests list every finding of a review once. In the markdown document and on the
page the findings stand as the one stable sort by severity has them, numbered from 1 on in the
document. In the request to fix them they stand, numbered through, as the one stable sort by
severity and importance has them, under a heading for each severity that has any. The numbers in its
summary are those of the findings under the headings, and their sum is the total. -/
theorem Report.findings_listed (r : Review) :
    (∃ order, (∀ fs, StableSort Finding.graverFirst r.findings fs ↔ fs = order) ∧
      Markdown.Lists r order ∧ Html.Lists r order) ∧
    ∃ order, (∀ fs, StableSort Finding.urgentFirst r.findings fs ↔ fs = order) ∧
      FixingPrompt.Lists r order := by
  constructor
  · exact ⟨ordered r.findings,
      fun _ => Finding.ranking_graverFirst.stableSort_iff_eq (stableSort_ordered r.findings),
      Markdown.lists_ordered r, Html.lists_ordered r⟩
  · exact ⟨FixingPrompt.listed r,
      fun _ => Finding.ranking_urgentFirst.stableSort_iff_eq (FixingPrompt.stableSort_listed r),
      FixingPrompt.lists_listed r⟩

end ReviewDesk

import Mathlib
import ReviewDesk.Proofs.Resolving

/-!
# Figures that agree

The findings of a review are counted by severity and by category in the figures that are told of it.
They are counted by severity once more, in another way, where the review is asked to be fixed, and
the reviews of an account are added up in a third. Every finding has one severity and one category,
each of which stands once in the list of all, so all these counts have the same total.
-/
namespace ReviewDesk

namespace Counts

variable {α κ : Type}

/-- The entries of some counts, taken together. -/
def total (counts : List (κ × Nat)) : Nat := (counts.map Prod.snd).sum

theorem total_cons (e : κ × Nat) (counts : List (κ × Nat)) :
    total (e :: counts) = e.2 + total counts := rfl

/-- An entry that is zero may be left out. -/
theorem total_filter_pos (counts : List (κ × Nat)) :
    total (counts.filter (0 < ·.2)) = total counts := by
  induction counts with
  | nil => rfl
  | cons e counts ih =>
    by_cases hpos : 0 < e.2
    · rw [List.filter_cons_of_pos (by simpa using hpos), total_cons, total_cons, ih]
    · rw [List.filter_cons_of_neg (by simpa using hpos), total_cons, ih]
      omega

variable [DecidableEq κ] {key : α → κ} {keys : List κ} {rows : List α} {k : κ}

/-- The entry of a key, and zero if there is none. -/
def entryOf (counts : List (κ × Nat)) (k : κ) : Nat := (counts.lookup k).getD 0

/-- How many rows there are for each key. -/
def tally (key : α → κ) (keys : List κ) (rows : List α) : List (κ × Nat) :=
  keys.map fun k => (k, rows.countP (key · == k))

/-- If each key stands once, every row is counted once. -/
theorem total_tally (hkeys : keys.Nodup) (hall : ∀ x ∈ rows, key x ∈ keys) :
    total (tally key keys rows) = rows.length := by
  -- the keys of the rows as a multiset, whose counts are summed over the set of all keys
  have hcount (k : κ) : rows.countP (key · == k) = Multiset.count k (rows.map key : List κ) := by
    rw [Multiset.coe_count, List.count_eq_countP, List.countP_map]
    rfl
  have hmem : ∀ k ∈ ((rows.map key : List κ) : Multiset κ), k ∈ keys.toFinset := by
    intro k hk
    obtain ⟨x, hx, rfl⟩ := List.mem_map.mp (Multiset.mem_coe.mp hk)
    exact List.mem_toFinset.mpr (hall x hx)
  calc total (tally key keys rows)
      = (keys.map fun k => Multiset.count k (rows.map key : List κ)).sum := by
        simp only [total, tally, List.map_map, Function.comp_def, hcount]
    _ = ∑ k ∈ keys.toFinset, Multiset.count k (rows.map key : List κ) :=
        (List.sum_toFinset _ hkeys).symm
    _ = Multiset.card ((rows.map key : List κ) : Multiset κ) := Multiset.sum_count_eq_card hmem
    _ = rows.length := by rw [Multiset.coe_card, List.length_map]

theorem entryOf_tally (hk : k ∈ keys) :
    entryOf (tally key keys rows) k = rows.countP (key · == k) := by
  rw [entryOf, tally, List.lookup_graph _ hk, Option.getD_some]

theorem entryOf_tally_of_notMem (hk : k ∉ keys) : entryOf (tally key keys rows) k = 0 := by
  have hnone : (tally key keys rows).lookup k = none := by
    rw [List.lookup_eq_none_iff]
    intro e he
    obtain ⟨k', hk', rfl⟩ := List.mem_map.mp he
    exact bne_iff_ne.mpr fun h => hk (h ▸ hk')
  rw [entryOf, hnone, Option.getD_none]

/-- To leave out the entries that are zero is to leave out their keys. -/
theorem filter_pos_tally : (tally key keys rows).filter (0 < ·.2) =
    tally key (keys.filter fun k => decide (0 < rows.countP (key · == k))) rows :=
  List.filter_map

theorem entryOf_filter_pos_tally (hk : k ∈ keys) :
    entryOf ((tally key keys rows).filter (0 < ·.2)) k = rows.countP (key · == k) := by
  rw [filter_pos_tally]
  by_cases hpos : 0 < rows.countP (key · == k)
  · exact entryOf_tally (List.mem_filter.mpr ⟨hk, decide_eq_true hpos⟩)
  · rw [entryOf_tally_of_notMem]
    · omega
    · exact fun h => hpos (of_decide_eq_true (List.mem_filter.mp h).2)

theorem map_fst_tally : (tally key keys rows).map Prod.fst = keys := by
  rw [tally, List.map_map]
  exact List.map_id keys

end Counts

open Counts

theorem Severity.nodup_all : Severity.all.Nodup := by decide

theorem Severity.mem_all (s : Severity) : s ∈ Severity.all := by cases s <;> decide

theorem Category.nodup_all : Category.all.Nodup := by decide

theorem Category.mem_all (c : Category) : c ∈ Category.all := by cases c <;> decide

/-! ## Reviews -/

/-- Figures that are those of some findings. -/
structure Insights.CountsFindings (i : Insights) (findings : List Finding) : Prop where
  severities : i.severities.map Prod.fst = [.critical, .high, .medium, .low, .info]
  severity : ∀ s, entryOf i.severities s = findings.countP (·.severity == s)
  total_severities : total i.severities = findings.length
  categories : (i.categories.map Prod.fst).Sublist Category.all
  category : ∀ c, entryOf i.categories c = findings.countP (·.category == c)
  positive : ∀ e ∈ i.categories, 0 < e.2
  total_categories : total i.categories = findings.length
  security : i.security = entryOf i.categories .securityVulnerability

namespace Desk

variable {σ : Type} {d : Desk σ} {caller : Account} {id : Uuid} {r : Review}

theorem severities_insightsOf (r : Review) :
    (insightsOf r).severities = tally (·.severity) Severity.all r.findings := by
  simp only [insightsOf, Issue.severityCounts, Review.issues, List.countP_map]
  rfl

theorem categories_insightsOf (r : Review) :
    (insightsOf r).categories =
      (tally (·.category) Category.all r.findings).filter (0 < ·.2) := by
  simp only [insightsOf, Issue.categoryCounts, Review.issues, List.countP_map]
  rfl

theorem countsFindings_insightsOf (r : Review) : (insightsOf r).CountsFindings r.findings where
  severities := rfl
  severity s := by
    rw [severities_insightsOf, entryOf_tally s.mem_all]
  total_severities := by
    rw [severities_insightsOf, total_tally Severity.nodup_all fun f _ => f.severity.mem_all]
  categories := by
    rw [categories_insightsOf, filter_pos_tally, map_fst_tally]
    exact List.filter_sublist
  category c := by
    rw [categories_insightsOf, entryOf_filter_pos_tally c.mem_all]
  positive e he := by
    rw [categories_insightsOf] at he
    exact of_decide_eq_true (List.mem_filter.mp he).2
  total_categories := by
    rw [categories_insightsOf, total_filter_pos,
      total_tally Category.nodup_all fun f _ => f.category.mem_all]
  security := by
    rw [categories_insightsOf, entryOf_filter_pos_tally (Category.mem_all _)]
    rfl

/-- The request for a fix counts by filtering. -/
theorem severities_eq_fixingRequestOf (now : Moment) (r : Review) :
    ∃ info, (insightsOf r).severities =
      [(.critical, (fixingRequestOf now r).critical), (.high, (fixingRequestOf now r).high),
        (.medium, (fixingRequestOf now r).medium), (.low, (fixingRequestOf now r).low),
        (.info, info)] := by
  simp only [fixingRequestOf, Review.withSeverity, ← List.countP_eq_length_filter]
  exact ⟨_, severities_insightsOf r⟩

theorem outcome_fixingRequest (hr : d.store.getReview id = some r)
    (hmay : r.reviewerId = caller.id ∨ caller.isAdmin = true) :
    outcome (fixingRequest caller id) d = (.ok (fixingRequestOf d.now r), d) := by
  rw [fixingRequest, outcome_bind_ok (outcome_reviewFor_eq_ok_iff.mpr ⟨rfl, hr, hmay⟩),
    outcome_bind_ok (outcome_clock d), outcome_pure]

/-! ## Accounts -/

theorem findings_statisticsOf (reviews : List Review) :
    (statisticsOf reviews).findings =
      (reviews.map fun r => total (insightsOf r).severities).sum := by
  simp only [(countsFindings_insightsOf _).total_severities]
  exact (List.foldr_map).symm

theorem critical_statisticsOf (reviews : List Review) :
    (statisticsOf reviews).critical =
      (reviews.map fun r => entryOf (insightsOf r).severities .critical).sum := by
  simp only [(countsFindings_insightsOf _).severity, List.countP_eq_length_filter]
  exact (List.foldr_map).symm

theorem critical_le_total (r : Review) :
    entryOf (insightsOf r).severities .critical ≤ total (insightsOf r).severities := by
  rw [(countsFindings_insightsOf r).severity, (countsFindings_insightsOf r).total_severities]
  exact List.countP_le_length

/-- What is told of a review adds up to the number of its findings, by severity and by category, and
agrees with what is told where it is asked to be fixed; this for every review that the caller may
see. What is told of the account are the sums of these figures over the reviews of the account. -/
theorem rollUps_agree (d : Desk σ) (caller : Account) :
    (∀ id r, d.store.getReview id = some r → (r.reviewerId = caller.id ∨ caller.isAdmin = true) →
      ∃ i q info, outcome (insights caller id) d = (.ok i, d) ∧
        outcome (fixingRequest caller id) d = (.ok q, d) ∧
        i.CountsFindings r.findings ∧
        i.severities = [(.critical, q.critical), (.high, q.high), (.medium, q.medium),
          (.low, q.low), (.info, info)] ∧
        q.findings = total i.severities) ∧
    ∃ stats, outcome (statistics caller) d = (.ok stats, d) ∧
      stats.reviews = (d.store.own caller.id).length ∧
      stats.completed = (d.store.own caller.id).countP (·.isCompleted) ∧
      stats.findings = ((d.store.own caller.id).map fun r => total (insightsOf r).severities).sum ∧
      stats.critical =
        ((d.store.own caller.id).map fun r => entryOf (insightsOf r).severities .critical).sum ∧
      stats.completed ≤ stats.reviews ∧ stats.critical ≤ stats.findings ∧
      ((d.store.reviews.map (·.id)).Nodup → ∀ r ∈ d.store.own caller.id,
        outcome (insights caller r.id) d = (.ok (insightsOf r), d)) := by
  constructor
  · intro id r hr hmay
    have hcounts := countsFindings_insightsOf r
    obtain ⟨info, hseverities⟩ := severities_eq_fixingRequestOf d.now r
    exact ⟨_, _, info, outcome_insights hr hmay, outcome_fixingRequest hr hmay, hcounts,
      hseverities, hcounts.total_severities.symm⟩
  · -- the reviews are added up newest first, which makes no difference to the sums
    have hperm : (Store.newestFirst (d.store.own caller.id)).Perm (d.store.own caller.id) :=
      List.mergeSort_perm _ _
    refine ⟨_, outcome_statistics d caller, hperm.length_eq, hperm.countP_eq _, ?_, ?_,
      List.countP_le_length, ?_, ?_⟩
    · rw [findings_statisticsOf, (hperm.map _).sum_eq]
    · rw [critical_statisticsOf, (hperm.map _).sum_eq]
    · rw [critical_statisticsOf, findings_statisticsOf]
      exact List.sum_le_sum fun r _ => critical_le_total r
    · intro hids r hr
      obtain ⟨hmem, hown⟩ := List.mem_filter.mp hr
      exact outcome_insights (getReview_of_mem hids hmem) (.inl (eq_of_beq hown))

/-- A review with findings of more than one severity and category. -/
def mixedReview : Review :=
  { fullReview 3 with
    status := .inProgress
    findings := [
      { id := Uuid.ofNat 7, title := "Open redirect", severity := .critical
        category := .securityVulnerability },
      { id := Uuid.ofNat 8, title := "Lost update", severity := .critical, category := .bug },
      { id := Uuid.ofNat 9, title := "Old cipher", severity := .info
        category := .securityVulnerability }] }

/-- A desk with this review and another of the same account. -/
def mixedDesk : Desk Unit :=
  { busyDesk with store.reviews := [mixedReview, { fullReview 4 with id := Uuid.ofNat 5 }] }

theorem rollUps_agree_mixed :
    (∃ i q, outcome (insights busyOwner (Uuid.ofNat 2)) mixedDesk = (.ok i, mixedDesk) ∧
      outcome (fixingRequest busyOwner (Uuid.ofNat 2)) mixedDesk = (.ok q, mixedDesk) ∧
      total i.severities = 3 ∧ total i.categories = 3 ∧ i.security = 2 ∧
      q.critical = 2 ∧ q.findings = 3) ∧
    ∃ stats, outcome (statistics busyOwner) mixedDesk = (.ok stats, mixedDesk) ∧
      stats.reviews = 2 ∧ stats.completed = 1 ∧ stats.findings = 4 ∧ stats.critical = 2 ∧
      outcome (insights busyOwner (Uuid.ofNat 2)) mixedDesk =
        (.ok (insightsOf mixedReview), mixedDesk) := by
  obtain ⟨hreview, stats, hstats, hreviews, hcompleted, hfindings, hcritical, -, -, htold⟩ :=
    rollUps_agree mixedDesk busyOwner
  obtain ⟨i, q, info, hi, hq, hcounts, hseverities, htotal⟩ :=
    hreview (Uuid.ofNat 2) mixedReview rfl (.inl rfl)
  have hthree : total i.severities = 3 := hcounts.total_severities
  have htwo := hcounts.severity .critical
  rw [hseverities] at htwo
  have hids : (mixedDesk.store.reviews.map (·.id)).Nodup := by decide +kernel
  have hmem : mixedReview ∈ mixedDesk.store.own busyOwner.id :=
    List.mem_filter.mpr ⟨List.mem_cons_self, rfl⟩
  exact ⟨⟨i, q, hi, hq, hthree, hcounts.total_categories,
      hcounts.security.trans (hcounts.category .securityVulnerability), htwo,
      htotal.trans hthree⟩,
    stats, hstats, hreviews, hcompleted, hfindings, hcritical, htold hids mixedReview hmem⟩

end Desk

end ReviewDesk

import ReviewDesk.Proofs.Rounding
import ReviewDesk.Score

/-!
# Scores in range

Every score of a set of issues lies between 0 and 100. A sub-score starts full and only loses
points. The weighted average is rounded at every step, but a number that can be written exactly lies
at or just above each partial sum of full sub-scores, and rounding never passes it.
-/
namespace ReviewDesk

namespace Score

/-- All scores lie between 0 and 100. -/
structure Valid (s : Score) : Prop where
  overall : 0 ≤ s.overall ∧ s.overall ≤ 100
  security : 0 ≤ s.parts.security ∧ s.parts.security ≤ 100
  performance : 0 ≤ s.parts.performance ∧ s.parts.performance ≤ 100
  maintainability : 0 ≤ s.parts.maintainability ∧ s.parts.maintainability ≤ 100
  bestPractices : 0 ≤ s.parts.bestPractices ∧ s.parts.bestPractices ≤ 100
  testCoverage : 0 ≤ s.parts.testCoverage ∧ s.parts.testCoverage ≤ 100

theorem remaining_range (full : Int) (hfull : 0 ≤ full) (counts : Category → Bool)
    {cost : Severity → Int} (hcost : ∀ s, 0 ≤ cost s) (issues : List Issue) :
    0 ≤ remaining full counts cost issues ∧ remaining full counts cost issues ≤ full := by
  have hfold (n : Int) :
      issues.foldl (fun n i => if counts i.category then n - cost i.severity else n) n ≤ n := by
    induction issues generalizing n with
    | nil => exact Int.le_refl n
    | cons i issues ih =>
      have hstep := hcost i.severity
      rw [List.foldl_cons]
      split
      · exact (ih _).trans (by omega)
      · exact ih n
  have hlast := hfold full
  rw [remaining]
  omega

theorem deduction_nonneg (s : Severity) : 0 ≤ deduction s := by cases s <;> decide

theorem maintenanceDeduction_nonneg (s : Severity) : 0 ≤ maintenanceDeduction s := by
  cases s <;> decide

/-- A weighted sub-score is at most its full weight, if that can be written exactly. -/
theorem product_range (weight : Int) (full : Nat) {n : Int} (hn : 0 ≤ n ∧ n ≤ 100)
    (hweight : 0 ≤ weight ∧ 100 * weight ≤ full) (hexact : Nat.pow 2 (Decimal.excess full) ∣ full) :
    0 ≤ Decimal.round53Int (Decimal.round53Int n * weight) ∧
      Decimal.round53Int (Decimal.round53Int n * weight) ≤ full := by
  obtain ⟨hpos, hle⟩ := Decimal.round53Int_range 100 hn (by decide)
  have hproduct : Decimal.round53Int n * weight ≤ 100 * weight :=
    Int.mul_le_mul_of_nonneg_right hle hweight.1
  exact Decimal.round53Int_range full
    ⟨Int.mul_nonneg hpos hweight.1, hproduct.trans hweight.2⟩ hexact

theorem sum_range {a b : Int} {most most' : Nat} (ha : 0 ≤ a ∧ a ≤ most) (hb : 0 ≤ b ∧ b ≤ most')
    (hexact : Nat.pow 2 (Decimal.excess (most + most')) ∣ most + most') :
    0 ≤ Decimal.round53Int (a + b) ∧ Decimal.round53Int (a + b) ≤ (most + most' : Nat) :=
  Decimal.round53Int_range (most + most') (by omega) hexact

/-- The weights that are not exact in binary are a little above a fifth and a tenth. What they add
to the average is far from a whole point. -/
theorem overallOf_range {p : SubScores} (hsecurity : 0 ≤ p.security ∧ p.security ≤ 100)
    (hperformance : 0 ≤ p.performance ∧ p.performance ≤ 100)
    (hmaintainability : 0 ≤ p.maintainability ∧ p.maintainability ≤ 100)
    (hbestPractices : 0 ≤ p.bestPractices ∧ p.bestPractices ≤ 100)
    (htestCoverage : 0 ≤ p.testCoverage ∧ p.testCoverage ≤ 100) :
    0 ≤ overallOf p ∧ overallOf p ≤ 100 := by
  have hquarter {n : Int} (hn : 0 ≤ n ∧ n ≤ 100) :=
    product_range quarter (25 * 2 ^ 55) hn (by decide) (by decide)
  have hfifth {n : Int} (hn : 0 ≤ n ∧ n ≤ 100) :=
    product_range fifth (20 * 2 ^ 55 + 1024) hn (by decide) (by decide)
  have htenth {n : Int} (hn : 0 ≤ n ∧ n ≤ 100) :=
    product_range tenth (10 * 2 ^ 55 + 1024) hn (by decide) (by decide)
  have htwo := sum_range (hquarter hsecurity) (hfifth hperformance) (by decide)
  have hthree := sum_range htwo (hquarter hmaintainability) (by decide)
  have hfour := sum_range hthree (hfifth hbestPractices) (by decide)
  have hfive := sum_range hfour (htenth htestCoverage) (by decide)
  constructor
  · exact Int.tdiv_nonneg hfive.1 (by decide)
  · rw [overallOf, Int.tdiv_eq_ediv_of_nonneg hfive.1]
    omega

/-- The scores of any issues are in range. -/
theorem valid_ofIssues (issues : List Issue) : (ofIssues issues).Valid := by
  have hcategory (c : Category) : 0 ≤ ofCategory c issues ∧ ofCategory c issues ≤ 100 :=
    remaining_range 100 (by decide) (· == c) deduction_nonneg issues
  have hmaintainability :=
    remaining_range 100 (by decide) isMaintenance maintenanceDeduction_nonneg issues
  have htesting : 0 ≤ (partsOf issues).testCoverage ∧ (partsOf issues).testCoverage ≤ 100 := by
    obtain ⟨hpos, hle⟩ :=
      remaining_range testingBaseline (by decide) (· == .testing) deduction_nonneg issues
    exact ⟨hpos, hle.trans (by decide)⟩
  exact
    { overall := overallOf_range (hcategory _) (hcategory _) hmaintainability (hcategory _) htesting
      security := hcategory _
      performance := hcategory _
      maintainability := hmaintainability
      bestPractices := hcategory _
      testCoverage := htesting }

end Score

end ReviewDesk

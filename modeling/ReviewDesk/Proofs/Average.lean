import ReviewDesk.Proofs.Scores

/-!
# How exact the overall score is

The overall score should be the weighted average of the sub-scores without its fraction. It is
computed in double precision, where each product and each partial sum is rounded. All that this
adds up to is far less than a twentieth of a point, and averages lie on twentieths. So an average
that is no whole number loses exactly its fraction. An average that is a whole number may come out
just below it, and then the overall score is one point short.
-/
namespace ReviewDesk.Score

/-- A hundred times the weighted average. -/
def weighted (p : SubScores) : Int :=
  25 * p.security + 20 * p.performance + 25 * p.maintainability + 20 * p.bestPractices +
    10 * p.testCoverage

/-- The weighted average without its fraction. -/
def average (p : SubScores) : Int := weighted p / 100

/-- A sub-score times its weight, in double precision. -/
def product (n weight : Int) : Int := Decimal.round53Int (Decimal.round53Int n * weight)

/-- The weighted average in double precision, in units of 2⁻⁵⁵, before its fraction is dropped. -/
def roundedSum (p : SubScores) : Int :=
  let two := Decimal.round53Int (product p.security quarter + product p.performance fifth)
  let three := Decimal.round53Int (two + product p.maintainability quarter)
  let four := Decimal.round53Int (three + product p.bestPractices fifth)
  Decimal.round53Int (four + product p.testCoverage tenth)

theorem overallOf_eq (p : SubScores) : overallOf p = (roundedSum p).tdiv (2 ^ 55) := rfl

/-- The average is a whole number, and the sum in double precision lies below it. -/
def FallsShort (p : SubScores) : Prop :=
  100 ∣ weighted p ∧ 100 * roundedSum p < weighted p * 2 ^ 55

instance : DecidablePred FallsShort := fun _ => inferInstanceAs (Decidable (_ ∧ _))

/-- A product is off by at most 2⁶ units, apart from what its weight is off. -/
theorem product_near (weight : Int) (hweight : 0 ≤ weight ∧ weight ≤ quarter) {n : Int}
    (hn : 0 ≤ n ∧ n ≤ 100) :
    0 ≤ product n weight ∧ n * weight - 2 ^ 6 ≤ product n weight ∧
      product n weight ≤ n * weight + 2 ^ 6 := by
  have hexact : Decimal.round53Int n = n := by
    have hnear := Decimal.round53Int_near 0 hn.1 (by omega)
    omega
  have hlow : 0 ≤ n * weight := Int.mul_nonneg hn.1 hweight.1
  have hhigh : n * weight ≤ 100 * quarter :=
    Int.mul_le_mul hn.2 hweight.2 hweight.1 (by decide)
  have hpos := Decimal.round53Int_nonneg hlow
  have hnear := Decimal.round53Int_near 7 hlow (hhigh.trans_lt (by decide))
  rw [product, hexact]
  omega

/-- A partial sum is off by at most 2⁸ units, apart from what its terms are off. -/
theorem sum_near {a b : Int} (ha : 0 ≤ a) (hb : 0 ≤ b) (hsum : a + b < 2 ^ 62) :
    0 ≤ Decimal.round53Int (a + b) ∧ a + b - 2 ^ 8 ≤ Decimal.round53Int (a + b) ∧
      Decimal.round53Int (a + b) ≤ a + b + 2 ^ 8 := by
  have hpos := Decimal.round53Int_nonneg (Int.add_nonneg ha hb)
  have hnear := Decimal.round53Int_near 9 (Int.add_nonneg ha hb) hsum
  omega

/-- The rounded sum is off by less than 2¹¹ units: five products, four sums, and weights that are a
little above a fifth and a tenth. -/
theorem roundedSum_near {s : Score} (h : s.Valid) :
    0 ≤ roundedSum s.parts ∧
      weighted s.parts * 2 ^ 55 - 100 * 2 ^ 11 < 100 * roundedSum s.parts ∧
      100 * roundedSum s.parts < weighted s.parts * 2 ^ 55 + 100 * 2 ^ 11 := by
  obtain ⟨-, hsecurity, hperformance, hmaintainability, hbestPractices, htestCoverage⟩ := h
  have ha := product_near quarter (by decide) hsecurity
  have hb := product_near fifth (by decide) hperformance
  have hc := product_near quarter (by decide) hmaintainability
  have hd := product_near fifth (by decide) hbestPractices
  have he := product_near tenth (by decide) htestCoverage
  unfold roundedSum weighted
  unfold quarter fifth tenth at *
  dsimp only
  generalize product s.parts.security _ = a at *
  generalize product s.parts.performance _ = b at *
  generalize product s.parts.maintainability _ = c at *
  generalize product s.parts.bestPractices _ = d at *
  generalize product s.parts.testCoverage _ = e at *
  have htwo := sum_near ha.1 hb.1 (by omega)
  have hthree := sum_near htwo.1 hc.1 (by omega)
  have hfour := sum_near hthree.1 hd.1 (by omega)
  have hfive := sum_near hfour.1 he.1 (by omega)
  omega

/-- An average that falls short loses a whole point, any other only its fraction. -/
theorem overallOf_eq_average {s : Score} (h : s.Valid) :
    overallOf s.parts = average s.parts - if FallsShort s.parts then 1 else 0 := by
  obtain ⟨hpos, hlow, hhigh⟩ := roundedSum_near h
  -- Averages lie on twentieths, so one that is no whole number is too far from the next.
  have hstep : 5 ∣ weighted s.parts := by
    unfold weighted
    omega
  rw [overallOf_eq, average, Int.tdiv_eq_ediv_of_nonneg hpos]
  by_cases hshort : FallsShort s.parts
  · obtain ⟨hwhole, hbelow⟩ := hshort
    rw [if_pos ⟨hwhole, hbelow⟩]
    omega
  · rw [if_neg hshort]
    unfold FallsShort at hshort
    omega

/-- The overall score of any issues is the weighted average of their sub-scores without its
fraction, if and only if the average does not fall short. Otherwise it is one point less. The grade
is always that of the overall score. -/
theorem overall_eq_average_iff (issues : List Issue) :
    ((ofIssues issues).overall = average (ofIssues issues).parts ↔
      ¬ FallsShort (ofIssues issues).parts) ∧
    average (ofIssues issues).parts - 1 ≤ (ofIssues issues).overall ∧
    (ofIssues issues).overall ≤ average (ofIssues issues).parts ∧
    (ofIssues issues).grade = gradeOf (ofIssues issues).overall := by
  have hoverall : (ofIssues issues).overall = overallOf (ofIssues issues).parts := rfl
  have heq := hoverall.trans (overallOf_eq_average (valid_ofIssues issues))
  by_cases hshort : FallsShort (ofIssues issues).parts
  · rw [if_pos hshort] at heq
    exact ⟨⟨fun h => by omega, fun h => absurd hshort h⟩, by omega, by omega, rfl⟩
  · rw [if_neg hshort] at heq
    exact ⟨⟨fun _ => hshort, fun _ => by omega⟩, by omega, by omega, rfl⟩

/-- Four small issues, with an average of exactly 95. -/
def fourIssues : List Issue := [
  { title := "Slow loop", severity := .low, category := .performance },
  { title := "Vague name", severity := .medium, category := .naming },
  { title := "Bare except", severity := .low, category := .bestPractice },
  { title := "No test", severity := .low, category := .testing }]

/-- They are given 94 points, and with them another grade. -/
theorem overall_fourIssues :
    average (ofIssues fourIssues).parts = 95 ∧ (ofIssues fourIssues).overall = 94 ∧
      gradeOf 95 = "A+" ∧ (ofIssues fourIssues).grade = "A" := by
  decide +kernel

end ReviewDesk.Score

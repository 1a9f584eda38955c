import Mathlib.Algebra.Order.Ring.Int
import ReviewDesk.Decimal.Binary

/-!
# Rounding to 53 bits

Rounding never passes a number that can be written exactly. So it keeps the order of numbers, even
where one has more bits than the other, and a rounded number is no further from the exact one than
half of its last bit.
-/
namespace ReviewDesk.Decimal

variable {num num' den bound n m k : Nat}

theorem roundDiv_le (hden : 0 < den) (h : num ≤ bound * den) : roundDiv num den ≤ bound := by
  have hle : num / den ≤ bound := Nat.div_le_of_le_mul (by rwa [Nat.mul_comm])
  have hsplit := Nat.div_add_mod num den
  unfold roundDiv
  dsimp only
  split
  · exact hle
  · next hround =>
    -- What is rounded up is less than the bound, or nothing would be left over.
    by_contra hpast
    have hfull : num / den = bound := by omega
    rw [hfull, Nat.mul_comm] at hsplit
    have hnone : num % den = 0 := by omega
    simp [hnone, hden] at hround

theorem div_le_roundDiv (num den : Nat) : num / den ≤ roundDiv num den := by
  unfold roundDiv
  dsimp only
  split <;> omega

theorem roundDiv_le_div_succ (num den : Nat) : roundDiv num den ≤ num / den + 1 := by
  unfold roundDiv
  dsimp only
  split <;> omega

theorem roundDiv_mono (h : num ≤ num') : roundDiv num den ≤ roundDiv num' den := by
  rcases (Nat.div_le_div_right h : num / den ≤ num' / den).lt_or_eq with hlt | heq
  · calc roundDiv num den ≤ num / den + 1 := roundDiv_le_div_succ num den
      _ ≤ num' / den := hlt
      _ ≤ roundDiv num' den := div_le_roundDiv num' den
  · -- With the same whole part, what is left over decides.
    have hleft : num % den ≤ num' % den := by
      have hnum := Nat.div_add_mod num den
      have hnum' := Nat.div_add_mod num' den
      rw [heq] at hnum
      omega
    simp only [roundDiv, heq, Bool.or_eq_true, decide_eq_true_eq, Bool.and_eq_true, beq_iff_eq]
    split_ifs <;> omega

/-- Half of the divisor is the most that is gained or lost. -/
theorem roundDiv_near (num : Nat) (hden : 0 < den) :
    2 * num ≤ 2 * (roundDiv num den * den) + den ∧
      2 * (roundDiv num den * den) ≤ 2 * num + den := by
  have hsplit := Nat.div_add_mod' num den
  have hleft := Nat.mod_lt num hden
  simp only [roundDiv, Bool.or_eq_true, decide_eq_true_eq, Bool.and_eq_true, beq_iff_eq]
  split_ifs with hdown
  · omega
  · have hup : (num / den + 1) * den = num / den * den + den := Nat.succ_mul _ _
    omega

/-- The bits that a number has beyond 53. -/
def excess (n : Nat) : Nat := n.log2 + 1 - 53

theorem round53_eq (n : Nat) :
    round53 n = roundDiv n (Nat.pow 2 (excess n)) * Nat.pow 2 (excess n) := rfl

theorem log2_mono (h : n ≤ m) : n.log2 ≤ m.log2 := by
  by_cases hn : n = 0
  · simp [hn]
  · exact (Nat.le_log2 (by omega)).mpr ((Nat.log2_self_le hn).trans h)

theorem excess_mono (h : n ≤ m) : excess n ≤ excess m := by
  have hlog := log2_mono h
  unfold excess
  omega

theorem excess_le (h : n < 2 ^ (53 + k)) : excess n ≤ k := by
  by_cases hn : n = 0
  · simp [hn, excess]
  · have hlog := (Nat.log2_lt hn).mpr h
    unfold excess
    omega

theorem round53_le (h : n ≤ bound) (hexact : Nat.pow 2 (excess bound) ∣ bound) :
    round53 n ≤ bound := by
  have hdvd : Nat.pow 2 (excess n) ∣ bound :=
    (Nat.pow_dvd_pow 2 (excess_mono h)).trans hexact
  obtain ⟨k, hk⟩ := hdvd
  have hpos : 0 < Nat.pow 2 (excess n) := Nat.pow_pos (by decide)
  have hround : roundDiv n (Nat.pow 2 (excess n)) ≤ k :=
    roundDiv_le hpos (by rwa [Nat.mul_comm, ← hk])
  calc round53 n = roundDiv n (Nat.pow 2 (excess n)) * Nat.pow 2 (excess n) := rfl
    _ ≤ k * Nat.pow 2 (excess n) := Nat.mul_le_mul_right _ hround
    _ = bound := by rw [hk, Nat.mul_comm]

theorem le_round53 (h : bound ≤ n) (hexact : Nat.pow 2 (excess n) ∣ bound) :
    bound ≤ round53 n := by
  obtain ⟨k, hk⟩ := hexact
  have hpos : 0 < Nat.pow 2 (excess n) := Nat.pow_pos (by decide)
  have hdiv : k ≤ n / Nat.pow 2 (excess n) :=
    (Nat.le_div_iff_mul_le hpos).mpr (by rwa [Nat.mul_comm, ← hk])
  calc bound = k * Nat.pow 2 (excess n) := by rw [hk, Nat.mul_comm]
    _ ≤ round53 n := Nat.mul_le_mul_right _ (hdiv.trans (div_le_roundDiv _ _))

theorem round53_mono (h : n ≤ m) : round53 n ≤ round53 m := by
  rcases (excess_mono h).lt_or_eq with hlt | heq
  · -- The first power of two above `n` stands between the two.
    have hlog : n.log2 + 1 ≤ m.log2 := by
      unfold excess at hlt
      omega
    have hm : m ≠ 0 := by
      rintro rfl
      simp at hlog
    have hbelow : n ≤ 2 ^ m.log2 :=
      (Nat.lt_log2_self.trans_le (Nat.pow_le_pow_right (by decide) hlog)).le
    calc round53 n ≤ 2 ^ m.log2 :=
          round53_le hbelow (Nat.pow_dvd_pow 2 (by rw [excess, Nat.log2_two_pow]; omega))
      _ ≤ round53 m :=
          le_round53 (Nat.log2_self_le hm) (Nat.pow_dvd_pow 2 (by rw [excess]; omega))
  · rw [round53_eq, round53_eq, heq]
    exact Nat.mul_le_mul_right _ (roundDiv_mono h)

theorem round53_near (h : n < 2 ^ (53 + k)) :
    2 * n ≤ 2 * round53 n + 2 ^ k ∧ 2 * round53 n ≤ 2 * n + 2 ^ k := by
  have hpos : 0 < Nat.pow 2 (excess n) := Nat.pow_pos (by decide)
  have hstep := roundDiv_near n hpos
  have hlast : Nat.pow 2 (excess n) ≤ 2 ^ k := Nat.pow_le_pow_right (by decide) (excess_le h)
  rw [← round53_eq] at hstep
  omega

theorem round53Int_of_nonneg {a : Int} (h : 0 ≤ a) : round53Int a = round53 a.natAbs :=
  if_neg (Int.not_lt.mpr h)

theorem round53Int_of_neg {a : Int} (h : a < 0) : round53Int a = -round53 a.natAbs :=
  if_pos h

theorem round53Int_nonneg {a : Int} (h : 0 ≤ a) : 0 ≤ round53Int a := by
  rw [round53Int_of_nonneg h]
  exact Int.natCast_nonneg _

/-- Rounding keeps the order of numbers. -/
theorem round53Int_mono {a b : Int} (h : a ≤ b) : round53Int a ≤ round53Int b := by
  by_cases ha : 0 ≤ a
  · rw [round53Int_of_nonneg ha, round53Int_of_nonneg (ha.trans h)]
    have hmono : round53 a.natAbs ≤ round53 b.natAbs := round53_mono (by omega)
    exact Int.ofNat_le.mpr hmono
  · rw [round53Int_of_neg (by omega)]
    by_cases hb : 0 ≤ b
    · have hpos := round53Int_nonneg hb
      omega
    · rw [round53Int_of_neg (by omega)]
      have hmono : round53 b.natAbs ≤ round53 a.natAbs := round53_mono (by omega)
      omega

/-- Half of the last bit is the most that is gained or lost. -/
theorem round53Int_near {a : Int} (k : Nat) (hnonneg : 0 ≤ a) (h : a < 2 ^ (53 + k)) :
    2 * a - 2 ^ k ≤ 2 * round53Int a ∧ 2 * round53Int a ≤ 2 * a + 2 ^ k := by
  obtain ⟨n, rfl⟩ := Int.eq_ofNat_of_zero_le hnonneg
  have hnear := round53_near (n := n) (k := k) (by exact_mod_cast h)
  rw [round53Int_of_nonneg hnonneg, Int.natAbs_natCast]
  constructor
  · have hlow : ((2 * n : Nat) : Int) ≤ (2 * round53 n + 2 ^ k : Nat) := Int.ofNat_le.mpr hnear.1
    push_cast at hlow
    omega
  · have hhigh : ((2 * round53 n : Nat) : Int) ≤ (2 * n + 2 ^ k : Nat) := Int.ofNat_le.mpr hnear.2
    push_cast at hhigh
    omega

/-- A number that is at most an exact one stays so when it is rounded. -/
theorem round53Int_range {n : Int} (bound : Nat) (h : 0 ≤ n ∧ n ≤ bound)
    (hexact : Nat.pow 2 (excess bound) ∣ bound) :
    0 ≤ round53Int n ∧ round53Int n ≤ bound := by
  have hround : round53 n.natAbs ≤ bound := round53_le (by omega) hexact
  rw [round53Int_of_nonneg h.1]
  omega

end ReviewDesk.Decimal

import Mathlib
import ReviewDesk.Decimal.Binary

/-!
# Doubles that are powers of two

A power of two is exact as a double as long as its exponent fits, and so is the product of two of
them: nothing is lost when the one bit of the mantissa is moved to its place. So a pause that
doubles from attempt to attempt is what it is meant to be, and not only near it.
-/
namespace ReviewDesk.Double

open Float.Model (Format UnpackedFloat totalExponent)
open Float.Model.UnpackedFloat
open Decimal (Binary)

/-- The number of a finite double. -/
def value (b : Binary) : ℚ := b.signed b.mantissa * 2 ^ b.exponent

/-- The double is exactly this number. -/
def Denotes (x : Float) (q : ℚ) : Prop := ∃ b, Binary.ofFloat? x = some b ∧ value b = q

/-! ## Rounding -/

theorem shiftRight_power (n k : Nat) :
    ExtendedMantissa.mk (2 ^ (n + k)) false false >>> k = ⟨2 ^ n, false, false⟩ := by
  induction k generalizing n with
  | zero => rfl
  | succ k ih =>
    calc ExtendedMantissa.mk (2 ^ (n + (k + 1))) false false >>> (k + 1)
        = (ExtendedMantissa.mk (2 ^ (n + 1 + k)) false false >>> k).shiftRightOne := by
          rw [show n + (k + 1) = n + 1 + k by omega]
          rfl
      _ = ExtendedMantissa.shiftRightOne ⟨2 ^ (n + 1), false, false⟩ := by rw [ih]
      _ = ⟨2 ^ n, false, false⟩ := by simp [ExtendedMantissa.shiftRightOne, Nat.pow_succ]

variable {a b : Nat} {e f n : Int}

/-- A power of two loses no bits when it is brought to the mantissa of the format. -/
theorem shiftToTargetExponent_power (ha : 52 ≤ a) (he : -1074 ≤ e + a - 52) :
    shiftToTargetExponent Format.binary64 (2 ^ a) e .exact =
      (⟨2 ^ 52, false, false⟩, e + a - 52) := by
  have htarget : Format.binary64.targetExponent (totalExponent (2 ^ a) e) = e + a - 52 := by
    simp only [Format.targetExponent, totalExponent, Nat.log2_two_pow, Format.mantissaBits,
      Format.minExponent]
    omega
  have hshift : (e + a - 52 - e).toNat = a - 52 := by omega
  have hpower := shiftRight_power 52 (a - 52)
  rw [Nat.add_sub_cancel' ha] at hpower
  rw [shiftToTargetExponent, htarget, shiftToExponent, hshift]
  refine Prod.ext hpower ?_
  dsimp only
  omega

theorem roundWithAccuracy_power (s : Sign) (ha : 52 ≤ a) (he : -1074 ≤ e + a - 52) :
    roundWithAccuracy Format.binary64 s (2 ^ a) e .exact =
      .finite s (2 ^ 52) (e + a - 52) (Nat.two_pow_pos 52) := by
  have hround : (ExtendedMantissa.mk (2 ^ 52) false false).roundedMantissa = 2 ^ 52 := rfl
  rw [roundWithAccuracy, shiftToTargetExponent_power ha he]
  dsimp only
  rw [hround, shiftToTargetExponent_power (Nat.le_refl 52) (by omega)]
  simp

theorem mul_power (ha : 0 < 2 ^ a) (hb : 0 < 2 ^ b) (hab : 52 ≤ a + b)
    (hlow : -1074 ≤ e + f + (a + b) - 52) :
    mul Format.binary64 (.finite .positive (2 ^ a) e ha) (.finite .positive (2 ^ b) f hb) =
      .finite .positive (2 ^ 52) (e + f + (a + b) - 52) (Nat.two_pow_pos 52) := by
  have hround := roundWithAccuracy_power (e := e + f) .positive hab (by push_cast; omega)
  rw [mul, ← Nat.pow_add]
  push_cast at hround
  exact hround

/-! ## Packing -/

/-- The double `2 ^ n`. -/
def power (n : Int) : Float :=
  .ofModel (.pack (.finite .positive (2 ^ 52) (n - 52) (Nat.two_pow_pos 52)))

theorem sign_packComponents (s : Sign) (exponent : BitVec 11) (mantissa : BitVec 52) :
    Sign.ofBitVec (unpackSign (packComponents Format.binary64 s exponent mantissa)) = s := by
  have hfirst : (s.toBitVec ++ exponent ++ mantissa).extractLsb' 63 1 = s.toBitVec := by
    rw [BitVec.extractLsb'_append_eq_of_le (by decide),
      BitVec.extractLsb'_append_eq_of_le (by decide)]
    cases s <;> rfl
  change Sign.ofBitVec ((s.toBitVec ++ exponent ++ mantissa).extractLsb' 63 1) = s
  rw [hfirst]
  cases s <;> rfl

theorem unpack_pack (f : UnpackedFloat) :
    (Float.Model.pack f).unpack = unpack Format.binary64 (pack Format.binary64 f) := rfl

section Packed

variable (hlow : -1022 ≤ n) (hhigh : n ≤ 1023)

include hlow hhigh

theorem pack_power :
    pack Format.binary64 (.finite .positive (2 ^ 52) (n - 52) (Nat.two_pow_pos 52)) =
      packComponents Format.binary64 .positive (BitVec.ofNat 11 (n + 1023).toNat) 0#52 := by
  have hbias : Format.binary64.exponentBias = 1023 := rfl
  have hexponent : (n - 52 + (1023 : ℕ) + (52 : ℕ)).toNat = (n + 1023).toNat := by omega
  rw [pack, hbias]
  dsimp only
  rw [hexponent, if_neg (by omega), if_pos (by rw [Nat.log2_two_pow]; rfl)]
  rfl

theorem toNat_exponent : (BitVec.ofNat 11 (n + 1023).toNat).toNat = (n + 1023).toNat := by
  rw [BitVec.toNat_ofNat, Nat.mod_eq_of_lt (by omega)]

theorem exponent_ne :
    BitVec.ofNat 11 (n + 1023).toNat ≠ -1#11 ∧ BitVec.ofNat 11 (n + 1023).toNat ≠ 0#11 := by
  have hhighest : (-1#11).toNat = 2047 := by decide
  have hlowest : (0#11).toNat = 0 := by decide
  rw [Ne, Ne, ← BitVec.toNat_inj, ← BitVec.toNat_inj, toNat_exponent hlow hhigh, hhighest, hlowest]
  omega

theorem unpack_power :
    (power n).toModel.unpack = .finite .positive (2 ^ 52) (n - 52) (Nat.two_pow_pos 52) := by
  obtain ⟨hfinite, hnormal⟩ := exponent_ne hlow hhigh
  have hexponent : ((n + 1023).toNat : Int) -
      (Format.binary64.exponentBias + Format.binary64.mantissaBitsWithoutImplicit) = n - 52 := by
    rw [show Format.binary64.exponentBias = 1023 from rfl]
    dsimp only
    omega
  have hmantissa : (1#1 ++ 0#52).toNat = 2 ^ 52 := by decide
  rw [power, unpack_pack, pack_power hlow hhigh, unpack]
  simp only [unpackExponent_packComponents, unpackMantissa_packComponents, sign_packComponents,
    if_neg hfinite, if_neg hnormal, toNat_exponent hlow hhigh, hexponent, hmantissa]

theorem toBits_power : (power n).toBits.toNat = (n + 1023).toNat * 2 ^ 52 := by
  change (pack Format.binary64 (.finite .positive (2 ^ 52) (n - 52) (Nat.two_pow_pos 52))).toNat = _
  rw [pack_power hlow hhigh, packComponents, BitVec.toNat_append, BitVec.toNat_append,
    toNat_exponent hlow hhigh]
  simp [Sign.toBitVec, Nat.shiftLeft_eq]

theorem denotes_power : Denotes (power n) (2 ^ n) := by
  have hbits := toBits_power hlow hhigh
  refine ⟨⟨false, 2 ^ 52, n - 52⟩, ?_, ?_⟩
  · have hexponent : (n + 1023).toNat * 2 ^ 52 / 2 ^ 52 % 2 ^ 11 = (n + 1023).toNat := by omega
    have hfraction : (n + 1023).toNat * 2 ^ 52 % 2 ^ 52 = 0 := by omega
    have hsign : (n + 1023).toNat * 2 ^ 52 / 2 ^ 63 = 0 := by omega
    simp only [Binary.ofFloat?, hbits, Nat.pow_eq, hexponent, hfraction, hsign]
    rw [if_neg (by simp; omega), if_neg (by simp; omega)]
    simp
    omega
  · simp only [value, Binary.signed]
    push_cast
    rw [zpow_sub₀ two_ne_zero]
    norm_num
    ring

end Packed

theorem power_mul {k l : Int} (hk : -1022 ≤ k) (hk' : k ≤ 1023) (hl : -1022 ≤ l) (hl' : l ≤ 1023)
    (hlow : -1022 ≤ k + l) : power k * power l = power (k + l) := by
  have hproduct := mul_power (e := k - 52) (f := l - 52) (Nat.two_pow_pos 52) (Nat.two_pow_pos 52)
    (by omega) (by push_cast; omega)
  have hexponent : k - 52 + (l - 52) + ((52 : ℕ) + (52 : ℕ)) - 52 = k + l - 52 := by
    push_cast
    omega
  simp only [hexponent] at hproduct
  change Float.ofModel (.pack (mul Format.binary64 (power k).toModel.unpack
    (power l).toModel.unpack)) = _
  rw [unpack_power hk hk', unpack_power hl hl', hproduct]
  rfl

/-! ## Whole numbers -/

/-- A power of two with few bits, brought to the mantissa of the format. -/
theorem unpackedOfNat_power {i : Nat} (hi : i < 53) :
    UnpackedFloat.ofNat Format.binary64 (2 ^ i) =
      .finite .positive (2 ^ 52) (i - 52) (Nat.two_pow_pos 52) := by
  have htarget : Format.binary64.targetExponent (totalExponent (2 ^ i) 0) = (i : Int) - 52 := by
    simp only [Format.targetExponent, totalExponent, Nat.log2_two_pow, Format.mantissaBits,
      Format.minExponent]
    omega
  have hshift : (0 - ((i : Int) - 52)).toNat = 52 - i := by omega
  have hpositive : compare ((2 ^ i : ℕ) : Int) 0 = .gt := by
    rw [compare_gt_iff_gt]
    positivity
  have hmantissa : 2 ^ i <<< (52 - i) = 2 ^ 52 := by
    rw [Nat.shiftLeft_eq, ← Nat.pow_add, Nat.add_sub_cancel' (by omega)]
  have hround := roundWithAccuracy_power (e := 0 - ((52 - i : ℕ) : Int)) .positive
    (Nat.le_refl 52) (by omega)
  have hexponent : (0 : Int) - (52 - i : ℕ) + (52 : ℕ) - 52 = i - 52 := by omega
  simp only [hexponent] at hround
  rw [UnpackedFloat.ofNat, UnpackedFloat.ofInt, UnpackedFloat.normalize, hpositive]
  simp only [Int.toNat_natCast, UnpackedFloat.round, decreaseExponent, htarget, hshift, hmantissa]
  exact hround

/-- One with many, which goes through a product with one. -/
theorem unpackedOfScientific_power (i : Nat) :
    UnpackedFloat.ofScientific Format.binary64 (2 ^ i) 0 =
      .finite .positive (2 ^ 52) (i - 52) (Nat.two_pow_pos 52) := by
  have hwide : 2 ^ i <<< Format.binary64.mantissaBits = 2 ^ (i + 53) := by
    rw [Nat.shiftLeft_eq, Nat.pow_add]
    rfl
  have hone : 10 ^ Int.toNat 0 = 2 ^ 0 := rfl
  have hproduct := mul_power (e := -(53 : ℕ)) (f := 0) (Nat.two_pow_pos (i + 53))
    (Nat.two_pow_pos 0) (by omega) (by push_cast; omega)
  have hexponent : -((53 : ℕ) : Int) + 0 + (((i + 53 : ℕ) : Int) + (0 : ℕ)) - 52 = i - 52 := by
    push_cast
    omega
  simp only [hexponent] at hproduct
  rw [UnpackedFloat.ofScientific, dif_neg (Nat.two_pow_pos i).ne', if_neg (by decide),
    if_neg (by simp), if_pos (Int.le_refl 0)]
  simp only [hwide, hone]
  exact hproduct

theorem ofNat_power {i : Nat} (hi : i < 1024) : Float.ofNat (2 ^ i) = power i := by
  change Float.ofScientific (2 ^ i) false 0 = _
  unfold Float.ofScientific
  split
  · next h =>
    have hfew : i < 53 := (Nat.pow_lt_pow_iff_right (by decide)).mp h.1
    have hfloat : (2 ^ i).toUInt64.toFloat = power i := by
      change Float.ofModel (.pack (UnpackedFloat.ofNat Format.binary64 (2 ^ i).toUInt64.toNat)) = _
      rw [Nat.toUInt64_eq, UInt64.toNat_ofNat', Nat.mod_eq_of_lt (by omega),
        unpackedOfNat_power hfew]
      rfl
    have hone : Float.ofBits 0x3FF0000000000000 = power 0 := by decide +kernel
    have hproduct := power_mul (k := i) (l := 0) (by omega) (by omega) (by omega) (by omega)
      (by omega)
    rw [Int.add_zero] at hproduct
    exact (congrArg₂ (· * ·) hfloat hone).trans hproduct
  · change Float.ofModel (.pack (UnpackedFloat.ofScientific Format.binary64 (2 ^ i) 0)) = _
    rw [unpackedOfScientific_power]
    rfl

end ReviewDesk.Double

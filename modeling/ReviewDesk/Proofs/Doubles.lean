import Mathlib
import ReviewDesk.Validation.Field

/-!
# Doubles that stay finite

A double is rounded from a mantissa and an exponent. As long as the bits of the one and the height
of the other are bounded, so are those of what is rounded, of products, and of what is packed and
unpacked again; so whole numbers of moderate size are far from the infinite double. Doubles are
compared as numbers: only the one that is no number differs from itself, and a zero has no sign.
-/
namespace ReviewDesk.Double

open Float.Model (Format UnpackedFloat totalExponent)
open Float.Model.UnpackedFloat

/-- Zero, or a number whose mantissa has few bits and whose exponent is low. -/
def Bounded (bits : Nat) (top : Int) : UnpackedFloat → Prop
  | .zero _ => True
  | .finite _ m e _ => m < 2 ^ bits ∧ e ≤ top
  | .infinity _ | .notANumber => False

variable {bits m : Nat} {top e : Int}

theorem log2_le_of_lt (h : m < 2 ^ bits) : m.log2 ≤ bits := by
  by_cases hm : m = 0
  · simp [hm]
  · exact ((Nat.log2_lt hm).mpr h).le

theorem mantissa_shiftRight_le (em : ExtendedMantissa) (k : Nat) :
    (em >>> k).mantissa ≤ em.mantissa := by
  induction k with
  | zero => exact Nat.le_refl _
  | succ k ih =>
    calc (em >>> (k + 1)).mantissa = (em >>> k).mantissa / 2 := rfl
      _ ≤ (em >>> k).mantissa := Nat.div_le_self _ _
      _ ≤ em.mantissa := ih

theorem roundedMantissa_le (em : ExtendedMantissa) : em.roundedMantissa ≤ em.mantissa + 1 := by
  obtain ⟨m, r, s⟩ := em
  cases r <;> cases s <;>
    simp only [ExtendedMantissa.roundedMantissa, ExtendedMantissa.accuracy,
      Accuracy.roundToNearestEven] <;> omega

/-- Where a shift to the exponent of the format ends. -/
theorem shiftToTargetExponent_bound (a : Accuracy) (hm : m < 2 ^ bits) (he : e ≤ top)
    (htop : -1074 ≤ top) :
    (shiftToTargetExponent Format.binary64 m e a).1.mantissa ≤ m ∧
      (shiftToTargetExponent Format.binary64 m e a).2 ≤ top + bits := by
  constructor
  · have hstart : (ExtendedMantissa.ofMantissaAndAccuracy m a).mantissa = m := by
      unfold ExtendedMantissa.ofMantissaAndAccuracy
      split <;> rfl
    exact (mantissa_shiftRight_le (.ofMantissaAndAccuracy m a) _).trans_eq hstart
  · have hlog := log2_le_of_lt hm
    simp only [shiftToTargetExponent, shiftToExponent, Format.targetExponent, totalExponent,
      Format.mantissaBits, Format.minExponent]
    omega

/-- Rounding adds at most one bit to the mantissa. -/
theorem bounded_roundWithAccuracy (s : Sign) (a : Accuracy) (hm : m < 2 ^ bits) (he : e ≤ top)
    (htop : -1074 ≤ top) :
    Bounded (bits + 1) (top + 2 * bits + 1) (roundWithAccuracy Format.binary64 s m e a) := by
  obtain ⟨hm₁, he₁⟩ := shiftToTargetExponent_bound a hm he htop
  rw [roundWithAccuracy]
  generalize shiftToTargetExponent Format.binary64 m e a = first at *
  obtain ⟨em, e₁⟩ := first
  dsimp only at *
  have hround : em.roundedMantissa < 2 ^ (bits + 1) := by
    have hcarry := roundedMantissa_le em
    rw [Nat.pow_succ]
    omega
  obtain ⟨hm₂, he₂⟩ := shiftToTargetExponent_bound .exact hround he₁ (by omega)
  split
  · trivial
  · exact ⟨hm₂.trans_lt hround, by omega⟩

/-- The highest exponent apart, bits are those of a number. -/
theorem bounded_unpack {b : BitVec Format.binary64.numBits} (h : unpackExponent b ≠ -1#_)
    (hlow : -1074 ≤ top) (htop : ((unpackExponent b).toNat : Int) - 1075 ≤ top) :
    Bounded 53 top (unpack Format.binary64 b) := by
  have hbias : Format.binary64.exponentBias = 1023 := rfl
  unfold unpack
  dsimp only
  rw [if_neg h]
  split
  · next hzero =>
    split
    · trivial
    · refine ⟨(unpackMantissa b).isLt.trans (by decide), ?_⟩
      rw [hzero, hbias]
      simp
      omega
  · refine ⟨(1#1 ++ unpackMantissa b).isLt, ?_⟩
    rw [hbias]
    omega

/-- A number that is packed is read back with a mantissa of 53 bits and an exponent that is no
higher. -/
theorem bounded_unpack_pack {f : UnpackedFloat} (h : Bounded bits top f) (hlow : -1074 ≤ top)
    (hhigh : top ≤ 970) : Bounded 53 top (Float.Model.pack f).unpack := by
  change Bounded 53 top (unpack Format.binary64 (pack Format.binary64 f))
  have hbias : Format.binary64.exponentBias = 1023 := rfl
  have hfirst : (0#11) ≠ -1#11 := by decide
  have hzero : ((0#11).toNat : Int) - 1075 ≤ top := by simp; omega
  cases f with
  | infinity s => exact h.elim
  | notANumber => exact h.elim
  | zero s =>
    rw [pack, packedZero]
    apply bounded_unpack _ hlow <;> rw [unpackExponent_packComponents]
    · exact hzero
    · exact hfirst
  | finite s m e hpos =>
    have htop := h.2
    have hexponent : (BitVec.ofNat 11 (e + (1023 : ℕ) + (52 : ℕ)).toNat).toNat =
        (e + 1023 + 52).toNat := by
      rw [BitVec.toNat_ofNat, Nat.mod_eq_of_lt (by omega)]
      rfl
    rw [pack, hbias]
    dsimp only
    rw [if_neg (by omega)]
    split
    · apply bounded_unpack _ hlow <;> rw [unpackExponent_packComponents]
      · rw [hexponent]
        omega
      · intro hall
        have hhighest := congrArg BitVec.toNat hall
        rw [hexponent] at hhighest
        simp at hhighest
        omega
    · apply bounded_unpack _ hlow <;> rw [unpackExponent_packComponents]
      · exact hzero
      · exact hfirst

theorem not_isInf_of_bounded {f : UnpackedFloat} (h : Bounded bits top f) : f.isInf = false := by
  cases f with
  | infinity s => exact h.elim
  | _ => rfl

theorem bounded_mul {f g : UnpackedFloat} {bits' : Nat} {top' : Int} (hf : Bounded bits top f)
    (hg : Bounded bits' top' g) (htop : -1074 ≤ top + top') :
    Bounded (bits + bits' + 1) (top + top' + 2 * (bits + bits') + 1)
      (mul Format.binary64 f g) := by
  cases f with
  | infinity s => exact hf.elim
  | notANumber => exact hf.elim
  | zero s =>
    cases g with
    | infinity s => exact hg.elim
    | notANumber => exact hg.elim
    | zero s => trivial
    | finite s m e hpos => trivial
  | finite s m e hpos =>
    cases g with
    | infinity s => exact hg.elim
    | notANumber => exact hg.elim
    | zero s => trivial
    | finite s' m' e' hpos' =>
      have hprod : m * m' < 2 ^ (bits + bits') := by
        rw [Nat.pow_add]
        exact Nat.mul_lt_mul'' hf.1 hg.1
      have hbound := bounded_roundWithAccuracy (s * s') .exact hprod (Int.add_le_add hf.2 hg.2) htop
      push_cast at hbound
      exact hbound

/-- A whole number of at most 64 bits, brought to the mantissa of the format. -/
theorem bounded_ofNat (h : m < 2 ^ 64) :
    Bounded 118 235 (UnpackedFloat.ofNat Format.binary64 m) := by
  unfold UnpackedFloat.ofNat UnpackedFloat.ofInt UnpackedFloat.normalize
  split
  · next hlt =>
    rw [compare_lt_iff_lt] at hlt
    omega
  · trivial
  · rw [Int.toNat_natCast, UnpackedFloat.round, decreaseExponent]
    have hshift : (0 - Format.binary64.targetExponent (totalExponent m 0)).toNat ≤ 53 := by
      simp only [Format.targetExponent, totalExponent, Format.mantissaBits, Format.minExponent]
      omega
    have hwide :
        m <<< (0 - Format.binary64.targetExponent (totalExponent m 0)).toNat < 2 ^ 117 := by
      calc m <<< (0 - Format.binary64.targetExponent (totalExponent m 0)).toNat
          = m * 2 ^ (0 - Format.binary64.targetExponent (totalExponent m 0)).toNat :=
            Nat.shiftLeft_eq _ _
        _ ≤ m * 2 ^ 53 := Nat.mul_le_mul_left m (Nat.pow_le_pow_right (by decide) hshift)
        _ < 2 ^ 117 := by omega
    have hlow : (0 : ℤ) - (0 - Format.binary64.targetExponent (totalExponent m 0)).toNat ≤ 0 := by
      omega
    exact bounded_roundWithAccuracy .positive .exact hwide hlow (by decide)

/-- A whole number of any size, if it has some room below the highest exponent. -/
theorem bounded_ofScientific (h : m < 2 ^ 126) :
    Bounded (179 + 1 + 1) (0 + 0 + 2 * ((179 : ℕ) + (1 : ℕ)) + 1)
      (UnpackedFloat.ofScientific Format.binary64 m 0) := by
  unfold UnpackedFloat.ofScientific
  split
  · trivial
  · next hm =>
    have hwide : m <<< Format.binary64.mantissaBits < 2 ^ 179 := by
      rw [Nat.shiftLeft_eq, show Format.binary64.mantissaBits = 53 from rfl]
      omega
    have hpos : 0 < m <<< Format.binary64.mantissaBits := by
      rw [Nat.shiftLeft_eq]
      exact Nat.mul_pos (Nat.pos_of_ne_zero hm) (Nat.two_pow_pos _)
    have hcount : Bounded 179 0 (.finite .positive _ (-Format.binary64.mantissaBits) hpos) :=
      ⟨hwide, by decide⟩
    have hhuge : (0 : ℤ) ≤ 2 ^ Format.binary64.exponentBits := by decide
    rw [if_neg (by omega), if_neg (by omega), if_pos (by decide)]
    generalize hfactor : UnpackedFloat.finite .positive (10 ^ Int.toNat 0) 0 _ = f
    have hone : Bounded 1 0 f := by
      rw [← hfactor]
      exact ⟨by decide, by decide⟩
    exact bounded_mul hcount hone (by decide)

/-- A whole number of few digits is a finite double. -/
theorem isInf_ofScientific (h : m < 2 ^ 126) : (Float.ofScientific m false 0).isInf = false := by
  unfold Float.ofScientific
  split
  · have hone : Bounded 53 0 (Float.ofBits 0x3FF0000000000000).toModel.unpack :=
      bounded_unpack_pack (bounded_unpack (by decide) (by decide) (by decide)) (by decide)
        (by decide)
    have hcount : Bounded 53 235 (Float.Model.pack (UnpackedFloat.ofNat Format.binary64
        m.toUInt64.toNat)).unpack :=
      bounded_unpack_pack (bounded_ofNat m.toUInt64.toNat_lt) (by decide) (by decide)
    have hproduct := bounded_mul hcount hone (by decide)
    exact not_isInf_of_bounded (bounded_unpack_pack hproduct (by decide) (by decide))
  · exact not_isInf_of_bounded
      (bounded_unpack_pack (bounded_ofScientific h) (by decide) (by decide))

/-! ## Equality -/

/-- Every double but the one that is no number equals itself. -/
theorem beq_self {x : Float} (h : x.isNaN = false) : (x == x) = true := by
  have hcompare : ∀ f : UnpackedFloat, f.isNaN = false → f.compare f = some .eq := by
    intro f hf
    cases f with
    | notANumber => cases hf
    | infinity s => cases s <;> rfl
    | zero s => rfl
    | finite s m e hm => cases s <;> simp [UnpackedFloat.compare]
  change (x.toModel.unpack.compare x.toModel.unpack == some .eq) = true
  rw [hcompare _ h]
  rfl

/-- The zeros of both signs are equal. -/
theorem zero_beq {x : Float} (h : (x == 0.0) = true) : ((0.0 : Float) == x) = true := by
  have hunpack : (0.0 : Float).toModel.unpack = .zero .positive := by rfl
  have hzero : ∀ f : UnpackedFloat, f.compare (.zero .positive) = some .eq →
      UnpackedFloat.compare (.zero .positive) f = some .eq := by
    intro f hf
    cases f with
    | notANumber => cases hf
    | infinity s => cases s <;> cases hf
    | zero s => rfl
    | finite s m e hm => cases s <;> cases hf
  change (x.toModel.unpack.compare (0.0 : Float).toModel.unpack == some .eq) = true at h
  change ((0.0 : Float).toModel.unpack.compare x.toModel.unpack == some .eq) = true
  rw [hunpack] at h ⊢
  rw [hzero _ (eq_of_beq h)]
  rfl

end ReviewDesk.Double

namespace ReviewDesk.Field

/-- A count of moderate size has a finite double next to it. -/
theorem isInf_realOfInt {n : Int} (hnonneg : 0 ≤ n) (h : n < 2 ^ 126) :
    (realOfInt n).isInf = false := by
  have hsize : (Nat.toDigits 10 n.natAbs).length ≤ 38 := by
    rw [Nat.length_toDigits_le_iff (by decide) (by decide)]
    omega
  have hfew : ¬ (400 < ((Nat.toDigits 10 n.natAbs).length : Int) + 0) := by omega
  have hmany : ¬ (((Nat.toDigits 10 n.natAbs).length : Int) + 0 < -400) := by omega
  have hsign : ¬ n < 0 := by omega
  simp only [realOfInt, Decimal.ofDigits, if_neg hsign]
  by_cases hzero : n.natAbs = 0
  · rw [if_pos (by simp [hzero])]
    decide +kernel
  · rw [if_neg (by simp [hzero]), if_neg hfew, if_neg (by decide)]
    exact Double.isInf_ofScientific (by omega)

end ReviewDesk.Field

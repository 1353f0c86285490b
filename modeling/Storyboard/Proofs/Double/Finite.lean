import Storyboard.Proofs.Double.Pattern

/-!
# Finite doubles

Which unpacked numbers are small enough to be packed as doubles, and that whole numbers of 64 bits
are. So is what is rounded once more, and so are their negatives.
-/

namespace Storyboard.Double

open Float.Model (UnpackedFloat Format totalExponent)
open Float.Model.UnpackedFloat

/-! ## Numbers that can be packed -/

/-- An unpacked number does not lie past the range of doubles. -/
def Fits : UnpackedFloat → Prop
  | .zero _ => True
  | .finite _ _ e _ => e ≤ 971
  | _ => False

/-- A pattern is that of a finite number unless its exponent is the topmost. -/
theorem isFinite_unpack_iff {b : BitVec Format.binary64.numBits} :
    (unpack .binary64 b).isFinite = true ↔ unpackExponent b ≠ (-1#11) := by
  unfold unpack
  dsimp only
  split
  · next top => split <;> simp [UnpackedFloat.isFinite, top]
  · next notTop =>
    refine iff_of_true ?_ notTop
    split
    · split <;> rfl
    · rfl

theorem isFinite_unpack_pack_iff {u : UnpackedFloat} :
    (unpack .binary64 (pack .binary64 u)).isFinite = true ↔ Fits u := by
  rw [isFinite_unpack_iff]
  cases u with
  | infinity s => simp [pack, packedInfinity, Fits]
  | notANumber => simp [pack, packedNaN, Fits]
  | zero s => simp [pack, packedZero, Fits]
  | finite s m e positive =>
    have bias : (Format.binary64.exponentBias : Int) = 1023 := rfl
    have width : (Format.binary64.mantissaBitsWithoutImplicit : Int) = 52 := rfl
    rw [pack, bias, width, Fits]
    dsimp only
    split
    · next high =>
      have past : ¬ e ≤ 971 := by simp at high; omega
      simp [packedInfinity, past]
    · next low =>
      have within : e ≤ 971 := by simp at low; omega
      refine iff_of_true ?_ within
      split
      · rw [unpackExponent_packComponents]
        intro top
        have := congrArg BitVec.toNat top
        simp at low this
        omega
      · rw [unpackExponent_packComponents]
        decide

theorem isFinite_iff {x : Float} : x.isFinite = true ↔ Fits x.toModel.unpack := by
  obtain ⟨⟨bits, valid⟩⟩ := x
  have packed := isFinite_unpack_pack_iff (u := unpack .binary64 bits.toBitVec)
  rwa [pack_unpack valid] at packed

/-- The negative of a finite double is finite. -/
theorem isFinite_neg {x : Float} (finite : x.isFinite = true) : (-x).isFinite = true := by
  refine isFinite_unpack_pack_iff.2 ?_
  rw [isFinite_iff] at finite
  generalize x.toModel.unpack = u at finite ⊢
  cases u <;> exact finite

/-! ## Rounding -/

/-- Shifting right does not make a mantissa larger. -/
theorem mantissa_shiftRight_le (em : ExtendedMantissa) (count : Nat) :
    (em >>> count).mantissa ≤ em.mantissa := by
  change (count.repeat ExtendedMantissa.shiftRightOne em).mantissa ≤ em.mantissa
  induction count with
  | zero => exact Nat.le_refl _
  | succ count ih => exact Nat.le_trans (Nat.div_le_self _ 2) ih

theorem roundedMantissa_le (em : ExtendedMantissa) : em.roundedMantissa ≤ em.mantissa + 1 := by
  unfold ExtendedMantissa.roundedMantissa Accuracy.roundToNearestEven
  split <;> omega

/-- Shifting a mantissa of few bits to where it belongs raises the exponent by little. -/
theorem shiftToTargetExponent_le {m : Nat} {e bound : Int} (small : m < 2 ^ 65) (low : e ≤ bound)
    (positive : 0 ≤ bound) :
    (shiftToTargetExponent .binary64 m e .exact).1.mantissa ≤ m ∧
      (shiftToTargetExponent .binary64 m e .exact).2 ≤ bound + 12 := by
  have log : m.log2 < 65 := by
    rcases Nat.eq_zero_or_pos m with rfl | some
    · decide
    · exact (Nat.log2_lt (Nat.pos_iff_ne_zero.1 some)).2 small
  have width : (Format.binary64.mantissaBits : Int) = 53 := rfl
  have least : Format.binary64.minExponent = -1074 := rfl
  constructor
  · exact mantissa_shiftRight_le _ _
  · simp only [shiftToTargetExponent, shiftToExponent, Format.targetExponent, totalExponent, width,
      least]
    omega

theorem fits_roundWithAccuracy {s : Sign} {m : Nat} {e : Int} (small : m < 2 ^ 64) (low : e ≤ 64) :
    Fits (roundWithAccuracy .binary64 s m e .exact) := by
  obtain ⟨mantissa, exponent⟩ := shiftToTargetExponent_le (m := m) (by omega) low (by omega)
  have rounded := roundedMantissa_le (shiftToTargetExponent .binary64 m e .exact).1
  have again := (shiftToTargetExponent_le (e := (shiftToTargetExponent .binary64 m e .exact).2)
    (m := (shiftToTargetExponent .binary64 m e .exact).1.roundedMantissa) (by omega) exponent
    (by omega)).2
  unfold roundWithAccuracy
  dsimp only
  split
  · trivial
  · simp only [Fits]
    omega

/-- A whole number of 64 bits can be rounded. -/
theorem fits_round {s : Sign} {n : Nat} (positive : 0 < n) (small : n < 2 ^ 64) :
    Fits (UnpackedFloat.round .binary64 s n 0) := by
  have log : n.log2 < 64 := (Nat.log2_lt (Nat.pos_iff_ne_zero.1 positive)).2 small
  have width : (Format.binary64.mantissaBits : Int) = 53 := rfl
  have least : Format.binary64.minExponent = -1074 := rfl
  unfold UnpackedFloat.round
  simp only [decreaseExponent, Format.targetExponent, totalExponent, width, least]
  refine fits_roundWithAccuracy ?_ (by omega)
  rw [Nat.shiftLeft_eq]
  generalize shift : (0 - max _ _ : Int).toNat = count
  have few : count ≤ 52 - n.log2 ∨ count = 0 := by omega
  have below : n < 2 ^ (n.log2 + 1) := Nat.lt_log2_self
  calc
    n * 2 ^ count < 2 ^ (n.log2 + 1) * 2 ^ count :=
      Nat.mul_lt_mul_of_pos_right below (Nat.two_pow_pos count)
    _ = 2 ^ (n.log2 + 1 + count) := (Nat.pow_add ..).symm
    _ ≤ 2 ^ 64 := Nat.pow_le_pow_right (by omega) (by omega)

/-- A whole number of 64 bits is a finite double. -/
theorem isFinite_toFloat (n : UInt64) : n.toFloat.isFinite = true := by
  refine isFinite_unpack_pack_iff.2 ?_
  change Fits (UnpackedFloat.normalize .binary64 n.toNat 0 .positive)
  unfold UnpackedFloat.normalize
  rcases Nat.eq_zero_or_pos n.toNat with zero | positive
  · rw [zero]
    trivial
  · have above : compare (n.toNat : Int) 0 = .gt := by
      rw [Int.compare_eq_gt]
      omega
    rw [above]
    exact fits_round positive n.toNat_lt

end Storyboard.Double

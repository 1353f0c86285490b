import Mathlib
import Storyboard.Decimal.Binary

/-!
# Bit patterns of doubles

A double is its bit pattern: unpacking a pattern into sign, mantissa and exponent and packing these
again gives the pattern back, but for patterns of what is no number. So doubles that unpack to the
same number are the same.
-/

namespace Storyboard.Double

open Float.Model (UnpackedFloat Format)
open Float.Model.UnpackedFloat

/-! ## The three fields -/

theorem toBitVec_ofBitVec (b : BitVec 1) : (Sign.ofBitVec b).toBitVec = b := by
  revert b
  decide

/-- A pattern is its three fields, one after the other. -/
theorem packComponents_fields {spec : Format} (b : BitVec spec.numBits) :
    packComponents spec (Sign.ofBitVec (unpackSign b)) (unpackExponent b) (unpackMantissa b) = b := by
  have exponents := spec.he
  have mantissas := spec.hm
  apply BitVec.eq_of_getLsbD_eq
  intro i below
  rw [packComponents, toBitVec_ofBitVec]
  simp only [BitVec.getLsbD_append, unpackSign, unpackExponent, unpackMantissa, BitVec.getLsbD_cast,
    BitVec.getLsbD_extractLsb]
  split
  · simp; omega
  · split
    · have : spec.mantissaBitsWithoutImplicit + (i - spec.mantissaBitsWithoutImplicit) = i := by omega
      simp [this]; omega
    · have : i = spec.mantissaBitsWithoutImplicit + spec.exponentBits := by
        unfold Format.numBits at below; omega
      subst this
      simp

theorem toNat_leadingOne {w : Nat} (m : BitVec w) : (1#1 ++ m).toNat = 2 ^ w + m.toNat := by
  rw [BitVec.toNat_append, ← Nat.shiftLeft_add_eq_or_of_lt m.isLt]
  simp [Nat.shiftLeft_eq]

/-- The fields of a pattern, packed again. -/
theorem packComponents_eq {b : BitVec Format.binary64.numBits} {e : BitVec 11} {m : BitVec 52}
    (exponent : unpackExponent b = e) (mantissa : unpackMantissa b = m) :
    packComponents .binary64 (Sign.ofBitVec (unpackSign b)) e m = b := by
  subst exponent mantissa
  exact packComponents_fields b

/-! ## Packing what was unpacked -/

/-- Packing an unpacked pattern gives it back. -/
theorem pack_unpack {b : BitVec Format.binary64.numBits} (valid : Format.binary64.Valid b) :
    pack .binary64 (unpack .binary64 b) = b := by
  have small : (unpackMantissa b).toNat < 2 ^ 52 := (unpackMantissa b).isLt
  have bound : (unpackExponent b).toNat < 2 ^ 11 := (unpackExponent b).isLt
  have bias : (Format.binary64.exponentBias : Int) = 1023 := rfl
  have width : (Format.binary64.mantissaBitsWithoutImplicit : Int) = 52 := rfl
  have widthOne : Format.binary64.mantissaBits = 53 := rfl
  unfold unpack
  dsimp only
  split
  · next top =>
    split
    · next zero => exact packComponents_eq top zero
    · next nonzero => exact (valid.eq_packedNaN top nonzero).symm
  · next notTop =>
    split
    · next bottom =>
      split
      · next zero => exact packComponents_eq bottom zero
      · next nonzero =>
        have exponent : (unpackExponent b).toNat = 0 := by rw [bottom]; rfl
        have positive : (unpackMantissa b).toNat ≠ 0 := by
          intro zero
          exact nonzero (BitVec.eq_of_toNat_eq zero)
        have log : (unpackMantissa b).toNat.log2 < 52 := (Nat.log2_lt positive).2 small
        rw [pack, exponent, bias, width, widthOne, if_neg (by simp), if_neg (by omega),
          BitVec.ofNat_toNat, BitVec.setWidth_eq]
        exact packComponents_eq bottom rfl
    · next notBottom =>
      have positive : (unpackExponent b).toNat ≠ 0 := by
        intro zero
        exact notBottom (BitVec.eq_of_toNat_eq zero)
      have below : (unpackExponent b).toNat ≠ 2 ^ 11 - 1 := by
        intro full
        exact notTop (BitVec.eq_of_toNat_eq full)
      have value : (1#1 ++ unpackMantissa b).toNat = 2 ^ 52 + (unpackMantissa b).toNat :=
        toNat_leadingOne _
      have log : (1#1 ++ unpackMantissa b).toNat.log2 = 52 := by
        rw [value]
        exact (Nat.log2_eq_iff (by omega)).2 (by omega)
      have biased : ((unpackExponent b).toNat - (1023 + 52) + 1023 + 52 : Int).toNat =
          (unpackExponent b).toNat := by omega
      rw [pack, log, bias, width, widthOne, biased, if_neg (by simp; omega), if_pos rfl, value]
      refine packComponents_eq (BitVec.eq_of_toNat_eq ?_) (BitVec.eq_of_toNat_eq ?_)
      · simp
      · rw [BitVec.toNat_ofNat, Nat.add_mod_left]
        exact (Nat.mod_eq_of_lt small).symm

/-- Doubles that unpack to the same number are the same. -/
theorem eq_of_unpack_eq {x y : Float} (same : x.toModel.unpack = y.toModel.unpack) : x = y := by
  obtain ⟨⟨x, validX⟩⟩ := x
  obtain ⟨⟨y, validY⟩⟩ := y
  have equal : x.toBitVec = y.toBitVec := by
    rw [← pack_unpack validX, ← pack_unpack validY]
    exact congrArg (pack .binary64) same
  have : x = y := UInt64.toBitVec_inj.1 equal
  subst this
  rfl

/-- The pattern of a double made from a pattern. -/
theorem toBits_ofBits {b : UInt64} (valid : Format.binary64.Valid b.toBitVec) :
    (Float.ofBits b).toBits = b :=
  UInt64.toBitVec_inj.1 (pack_unpack valid)

end Storyboard.Double

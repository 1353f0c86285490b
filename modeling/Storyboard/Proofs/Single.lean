import Storyboard.Proofs.Decimal.Exact
import Storyboard.Proofs.Double.Pattern
import Storyboard.Single

/-!
# Singles as doubles

Every finite single is a double, and rounding that double gives the single back.
-/

namespace Storyboard

namespace Decimal

open Float.Model.UnpackedFloat (unpackExponent)

/-- The pattern of a finite double. -/
theorem valid_of_finite {bits : Nat} (finite : bits % 2 ^ 63 < Format.double.infinityBits) :
    Float.Model.Format.binary64.Valid (UInt64.ofNat bits).toBitVec := by
  refine ⟨fun top => ?_⟩
  -- Its exponent is not the topmost, so it is no pattern of what is no number.
  have exponent := congrArg BitVec.toNat top
  have bound : Format.double.infinityBits = 2047 * 2 ^ 52 := rfl
  simp [unpackExponent, Nat.shiftRight_eq_div_pow] at exponent
  omega

/-- The double of a pattern has the value of the pattern. -/
theorem valueOf_ofBits {m : Nat} {e : Int} (kept : Format.double.Canonical m e)
    (finite : Format.double.pattern m e < Format.double.infinityBits) (negative : Bool) :
    valueOf (.ofBits (.ofNat (Format.double.pattern m e + Format.double.signOf negative))) =
      .finite negative m e := by
  have value := Format.value_pattern kept finite negative
  have bound : Format.double.infinityBits = 2047 * 2 ^ 52 := rfl
  have sign : Format.double.signOf negative = 0 ∨ Format.double.signOf negative = 2 ^ 63 := by
    cases negative
    · exact .inl rfl
    · exact .inr rfl
  rw [valueOf, Double.toBits_ofBits (valid_of_finite (by omega)),
    UInt64.toNat_ofNat_of_lt' (by rw [UInt64.size]; omega)]
  exact value

/-- A mantissa of a single is moved up until its leading bit is that of a double. -/
theorem exists_leading {m : Nat} (some : 0 < m) (small : m < 2 ^ 24) :
    ∃ shift ≤ 52, 2 ^ 52 ≤ m * 2 ^ shift ∧ m * 2 ^ shift < 2 ^ 53 := by
  have length : m.log2 < 24 := (Nat.log2_lt some.ne').2 small
  have above : 2 ^ m.log2 ≤ m := Nat.log2_self_le some.ne'
  have below : m < 2 ^ (m.log2 + 1) := Nat.lt_log2_self
  refine ⟨52 - m.log2, Nat.sub_le _ _, ?_, ?_⟩
  · calc
      2 ^ 52 = 2 ^ m.log2 * 2 ^ (52 - m.log2) := by rw [← pow_add]; congr 1; omega
      _ ≤ m * 2 ^ (52 - m.log2) := Nat.mul_le_mul_right _ above
  · calc
      m * 2 ^ (52 - m.log2) < 2 ^ (m.log2 + 1) * 2 ^ (52 - m.log2) :=
        Nat.mul_lt_mul_of_pos_right below (by positivity)
      _ = 2 ^ 53 := by rw [← pow_add]; congr 1; omega

/-- Every finite single has the value of a finite double. -/
theorem exists_double {m : Nat} {e : Int} (kept : Format.single.Canonical m e)
    (finite : Format.single.pattern m e < Format.single.infinityBits) :
    ∃ m' e', Format.double.Canonical m' e' ∧
      Format.double.pattern m' e' < Format.double.infinityBits ∧
      (m' * 2 ^ e' : ℚ) = m * 2 ^ e := by
  have least : Format.single.leastExponent = -149 := rfl
  have least' : Format.double.leastExponent = -1074 := rfl
  have bound : Format.single.infinityBits = 255 * 2 ^ 23 := rfl
  have bound' : Format.double.infinityBits = 2047 * 2 ^ 52 := rfl
  obtain ⟨low, below, _⟩ := kept
  rw [Format.pattern, bound, least] at finite
  rw [least] at low
  simp only [Format.single] at finite below
  rcases Nat.eq_zero_or_pos m with rfl | some
  · exact ⟨0, -1074, ⟨le_rfl, by decide, fun more => absurd more (lt_irrefl _)⟩, by decide, by simp⟩
  · obtain ⟨shift, few, leading, small⟩ := exists_leading some below
    refine ⟨m * 2 ^ shift, e - shift, ⟨by omega, small, fun _ => leading⟩, ?_, ?_⟩
    · have high : e ≤ 105 := by omega
      have few : (e - shift - -1074).toNat ≤ 1180 := by omega
      rw [Format.pattern, bound', least']
      calc
        (e - shift - -1074).toNat * 2 ^ 52 + m * 2 ^ shift < 1180 * 2 ^ 52 + 2 ^ 53 :=
          Nat.add_lt_add_of_le_of_lt (Nat.mul_le_mul_right _ few) small
        _ < 2047 * 2 ^ 52 := by decide
    · push_cast
      rw [zpow_sub₀ two_ne_zero, zpow_natCast]
      field_simp

end Decimal

namespace Single

open Decimal

/-- A single has a pattern of a finite value. -/
def Proper (s : Single) : Prop :=
  ∃ m e negative, Format.single.Canonical m e ∧
    Format.single.pattern m e < Format.single.infinityBits ∧
    s.bits = Format.single.pattern m e + Format.single.signOf negative

theorem proper_nearest {negative : Bool} {num den : Nat}
    (finite : (nearest negative num den).isFinite = true) : (nearest negative num den).Proper := by
  obtain ⟨m, e, kept, same⟩ := Format.single.exists_canonical (Format.single.nearest num den)
  refine ⟨m, e, negative, kept, ?_, ?_⟩
  · rw [same]
    refine lt_of_le_of_ne (Format.nearest_le num den) fun top => ?_
    simp only [nearest, top] at finite
    revert finite
    cases negative <;> decide
  · rw [same]
    rfl

/-- A finite single comes back from the double with its value. -/
theorem ofFloat_toFloat {s : Single} (proper : s.Proper) : ofFloat s.toFloat = s := by
  obtain ⟨m, e, negative, kept, finite, bits⟩ := proper
  obtain ⟨m', e', kept', finite', same⟩ := exists_double kept finite
  have value : s.value = .finite negative m e := by
    rw [Single.value, bits]
    exact Format.value_pattern kept finite negative
  have wide : Format.double.nearest (scaleTwo e m 1).1 (scaleTwo e m 1).2 =
      Format.double.pattern m' e' := by
    refine Format.nearest_eq kept' finite' (scaleTwo_pos Nat.one_pos) ?_
    rw [scaleTwo_value, same, Nat.cast_one, div_one]
  have narrow : Format.single.nearest (scaleTwo e' m' 1).1 (scaleTwo e' m' 1).2 =
      Format.single.pattern m e := by
    refine Format.nearest_eq kept finite (scaleTwo_pos Nat.one_pos) ?_
    rw [scaleTwo_value, ← same, Nat.cast_one, div_one]
  have double : valueOf s.toFloat = .finite negative m' e' := by
    rw [toFloat, value]
    dsimp only
    rw [nearestFloat, wide]
    exact valueOf_ofBits kept' finite' negative
  rw [ofFloat, double, ofValue]
  dsimp only
  rw [nearest, narrow]
  cases s
  exact congrArg Single.mk bits.symm

/-- What is rounded to a finite single has a proper pattern. -/
theorem proper_ofFloat {x : Float} (finite : (ofFloat x).isFinite = true) : (ofFloat x).Proper := by
  unfold ofFloat ofValue at finite ⊢
  generalize valueOf x = value at finite ⊢
  cases value with
  | notANumber => exact absurd finite (by decide)
  | infinite negative => cases negative <;> exact absurd finite (by decide)
  | finite negative mantissa exponent => exact proper_nearest finite

end Single

end Storyboard

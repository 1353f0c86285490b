import Storyboard.Proofs.Decimal.Exact
import Storyboard.Proofs.Double.Finite

/-!
# Rounding keeps the order

What is exact is a whole multiple of the least double, and rounding keeps its first 53 bits.
Dropping bits one by one keeps the order of what is left together with what is remembered of the
dropped ones, and where more bits are dropped the result lies past all results with fewer. So
rounding never puts two numbers the other way around.
-/

namespace Storyboard.Double

open Float.Model (UnpackedFloat Format totalExponent)
open Float.Model.UnpackedFloat
open Decimal.Format (Canonical)

/-! ## Dropping bits -/

/-- A mantissa with all of its dropped bits exact. -/
abbrev exactly (n : Nat) : ExtendedMantissa := .ofMantissaAndAccuracy n .exact

/-- What is left of a number and what is remembered of its dropped bits, as one count. -/
def remembered (em : ExtendedMantissa) : Nat :=
  4 * em.mantissa + 2 * em.roundBit.toNat + em.stickyBit.toNat

theorem remembered_shiftRightOne {em em' : ExtendedMantissa}
    (below : remembered em ≤ remembered em') :
    remembered em.shiftRightOne ≤ remembered em'.shiftRightOne := by
  -- A bit of the mantissa moves to the place after it, and the two lower ones become one.
  have moved (em : ExtendedMantissa) : remembered em.shiftRightOne =
      2 * em.mantissa + (em.roundBit || em.stickyBit).toNat := by
    have bit : (em.mantissa % 2 != 0).toNat = em.mantissa % 2 := by
      rcases Nat.mod_two_eq_zero_or_one em.mantissa with even | odd
      · rw [even]
        rfl
      · rw [odd]
        rfl
    simp only [remembered, ExtendedMantissa.shiftRightOne, bit]
    omega
  rw [moved, moved]
  obtain ⟨m, r, s⟩ := em
  obtain ⟨m', r', s'⟩ := em'
  cases r <;> cases s <;> cases r' <;> cases s' <;> simp [remembered] at below ⊢ <;> omega

theorem remembered_shiftRight {em em' : ExtendedMantissa} (below : remembered em ≤ remembered em')
    (count : Nat) : remembered (em >>> count) ≤ remembered (em' >>> count) := by
  induction count with
  | zero => exact below
  | succ count ih => exact remembered_shiftRightOne ih

theorem roundedMantissa_mono {em em' : ExtendedMantissa} (below : remembered em ≤ remembered em') :
    em.roundedMantissa ≤ em'.roundedMantissa := by
  obtain ⟨m, r, s⟩ := em
  obtain ⟨m', r', s'⟩ := em'
  cases r <;> cases s <;> cases r' <;> cases s' <;>
    simp [remembered, ExtendedMantissa.roundedMantissa, ExtendedMantissa.accuracy,
      Accuracy.roundToNearestEven] at below ⊢ <;> omega

/-- Bits that are dropped in two goes. -/
theorem shiftRight_add (em : ExtendedMantissa) (first second : Nat) :
    em >>> (first + second) = em >>> first >>> second := by
  induction second with
  | zero => rfl
  | succ second ih => exact congrArg ExtendedMantissa.shiftRightOne ih

/-- Zeros that are dropped leave nothing behind. -/
theorem exactly_shiftRight (n count : Nat) : exactly (n * 2 ^ count) >>> count = exactly n := by
  induction count generalizing n with
  | zero => rw [pow_zero, mul_one]; rfl
  | succ count ih =>
    have doubled : n * 2 ^ (count + 1) = n * 2 * 2 ^ count := by ring
    rw [doubled, shiftRight_add, ih]
    change ExtendedMantissa.mk (n * 2 / 2) (n * 2 % 2 != 0) false = ⟨n, false, false⟩
    simp

/-! ## Rounding -/

/-- What is left of a number when its lowest bits are dropped, rounded. -/
def nearest (n count : Nat) : Nat := (exactly n >>> count).roundedMantissa

theorem nearest_mono {n n' : Nat} (below : n ≤ n') (count : Nat) :
    nearest n count ≤ nearest n' count := by
  have below : remembered (exactly n) ≤ remembered (exactly n') := by
    simpa [remembered, exactly, ExtendedMantissa.ofMantissaAndAccuracy] using below
  exact roundedMantissa_mono (remembered_shiftRight below count)

/-- A multiple is rounded as what it is a multiple of, with fewer bits to drop. -/
theorem nearest_mul (n zeros count : Nat) :
    nearest (n * 2 ^ zeros) (zeros + count) = nearest n count := by
  rw [nearest, shiftRight_add, exactly_shiftRight, nearest]

/-- What can be written with fewer bits is exact. -/
theorem nearest_exact (n zeros : Nat) : nearest (n * 2 ^ zeros) zeros = n :=
  nearest_mul n zeros 0

/-- The bits of a number past its first 53. -/
def excess (n : Nat) : Nat := n.log2 - 52

/-- A number rounded to 53 bits. -/
def rounded (n : Nat) : Nat := nearest n (excess n) * 2 ^ excess n

theorem lt_of_excess (n : Nat) : n < 2 ^ 53 * 2 ^ excess n := by
  have fits : n.log2 + 1 ≤ 53 + excess n := by unfold excess; omega
  calc
    n < 2 ^ (n.log2 + 1) := Nat.lt_log2_self
    _ ≤ 2 ^ (53 + excess n) := Nat.pow_le_pow_right two_pos fits
    _ = 2 ^ 53 * 2 ^ excess n := pow_add ..

theorem le_of_excess {n : Nat} (some : 0 < excess n) : 2 ^ 52 * 2 ^ excess n ≤ n := by
  have length : 52 + excess n = n.log2 := by unfold excess at some ⊢; omega
  rw [← pow_add, length]
  refine Nat.log2_self_le fun zero => ?_
  rw [zero] at some
  cases some

theorem nearest_excess_le (n : Nat) : nearest n (excess n) ≤ 2 ^ 53 :=
  (nearest_mono (lt_of_excess n).le _).trans (nearest_exact _ _).le

theorem le_nearest_excess {n : Nat} (some : 0 < excess n) : 2 ^ 52 ≤ nearest n (excess n) :=
  (nearest_exact _ _).ge.trans (nearest_mono (le_of_excess some) _)

/-- **Rounding keeps the order.** -/
theorem rounded_mono {n n' : Nat} (below : n ≤ n') : rounded n ≤ rounded n' := by
  have logs : n.log2 ≤ n'.log2 := by
    rcases Nat.eq_zero_or_pos n with rfl | positive
    · exact Nat.zero_le _
    · exact (Nat.le_log2 (by omega)).2 ((Nat.log2_self_le (by omega)).trans below)
  rcases eq_or_lt_of_le (Nat.sub_le_sub_right logs 52) with same | fewer
  · have same : excess n = excess n' := same
    rw [rounded, rounded, same]
    exact Nat.mul_le_mul_right _ (nearest_mono below _)
  · -- The first is at most a power of two that the second reaches.
    have fewer : excess n < excess n' := fewer
    calc
      rounded n ≤ 2 ^ 53 * 2 ^ excess n := Nat.mul_le_mul_right _ (nearest_excess_le n)
      _ = 2 ^ (53 + excess n) := (pow_add ..).symm
      _ ≤ 2 ^ (52 + excess n') := Nat.pow_le_pow_right two_pos (by omega)
      _ = 2 ^ 52 * 2 ^ excess n' := pow_add ..
      _ ≤ rounded n' := Nat.mul_le_mul_right _ (le_nearest_excess (by omega))

/-! ## Doubles as multiples of the least one -/

/-- A mantissa and an exponent as a multiple of the least double. -/
def magnitude (m : Nat) (e : Int) : Nat := m * 2 ^ (e + 1074).toNat

theorem canonical_iff {m : Nat} {e : Int} :
    Canonical .double m e ↔ -1074 ≤ e ∧ m < 2 ^ 53 ∧ (-1074 < e → 2 ^ 52 ≤ m) :=
  ⟨fun canonical => ⟨canonical.least, canonical.below, canonical.leading⟩,
    fun ⟨least, below, leading⟩ => ⟨least, below, leading⟩⟩

theorem log2_lt_of_lt {n : Nat} (below : n < 2 ^ 53) : n.log2 < 53 := by
  rcases Nat.eq_zero_or_pos n with rfl | positive
  · decide
  · exact (Nat.log2_lt (by omega)).2 below

theorem log2_mul_two_pow {n : Nat} (some : n ≠ 0) (zeros : Nat) :
    (n * 2 ^ zeros).log2 = n.log2 + zeros := by
  refine (Nat.log2_eq_iff (Nat.mul_ne_zero some (Nat.two_pow_pos _).ne')).2 ⟨?_, ?_⟩
  · rw [pow_add]
    exact Nat.mul_le_mul_right _ (Nat.log2_self_le some)
  · rw [add_right_comm, pow_add]
    exact Nat.mul_lt_mul_of_pos_right Nat.lt_log2_self (Nat.two_pow_pos _)

/-- What a double holds is not rounded. -/
theorem rounded_magnitude {m : Nat} {e : Int} (canonical : Canonical .double m e) :
    rounded (magnitude m e) = magnitude m e := by
  obtain ⟨least, below, leading⟩ := canonical_iff.1 canonical
  have dropped : excess (magnitude m e) = (e + 1074).toNat := by
    rcases least.eq_or_lt with rfl | above
    · have log := log2_lt_of_lt below
      simp [magnitude, excess]
      omega
    · have leading := leading above
      have log : m.log2 = 52 := (Nat.log2_eq_iff (by omega)).2 ⟨leading, below⟩
      rw [excess, magnitude, log2_mul_two_pow (by omega), log]
      omega
  rw [rounded, dropped]
  exact congrArg (· * _) (nearest_exact m _)

/-- The first of two canonical forms, exponents before mantissas, is the smaller number. -/
theorem magnitude_lt {m m' : Nat} {e e' : Int} (canonical : Canonical .double m e)
    (canonical' : Canonical .double m' e') (first : e < e' ∨ e = e' ∧ m < m') :
    magnitude m e < magnitude m' e' := by
  obtain ⟨least, below, _⟩ := canonical_iff.1 canonical
  obtain ⟨_, _, leading⟩ := canonical_iff.1 canonical'
  rcases first with lower | ⟨rfl, less⟩
  · have more : 53 + (e + 1074).toNat ≤ 52 + (e' + 1074).toNat := by omega
    calc
      magnitude m e < 2 ^ 53 * 2 ^ (e + 1074).toNat :=
        Nat.mul_lt_mul_of_pos_right below (Nat.two_pow_pos _)
      _ = 2 ^ (53 + (e + 1074).toNat) := (pow_add ..).symm
      _ ≤ 2 ^ (52 + (e' + 1074).toNat) := Nat.pow_le_pow_right two_pos more
      _ = 2 ^ 52 * 2 ^ (e' + 1074).toNat := pow_add ..
      _ ≤ magnitude m' e' := Nat.mul_le_mul_right _ (leading (by omega))
  · exact Nat.mul_lt_mul_of_pos_right less (Nat.two_pow_pos _)

/-! ## Rounded numbers -/

/-- What a finite number is, as a multiple of the least double. -/
def units : UnpackedFloat → Int
  | .finite .positive m e _ => magnitude m e
  | .finite .negative m e _ => -magnitude m e
  | _ => 0

/-- A number is finite and has the form that numbers are kept in, but for too large an exponent. -/
def Regular : UnpackedFloat → Prop
  | .zero _ => True
  | .finite _ m e _ => Canonical .double m e
  | _ => False

/-- A number in its form has the bits to its place. -/
theorem shiftToTargetExponent_of_canonical {m : Nat} {e : Int} (least : -1074 ≤ e)
    (below : m < 2 ^ 53) : shiftToTargetExponent .binary64 m e .exact = (exactly m, e) := by
  have log := log2_lt_of_lt below
  have width : (Format.binary64.mantissaBits : Int) = 53 := rfl
  have lowest : Format.binary64.minExponent = -1074 := rfl
  have still : (Format.binary64.targetExponent (totalExponent m e) - e).toNat = 0 := by
    simp only [Format.targetExponent, totalExponent, width, lowest]
    omega
  rw [shiftToTargetExponent, shiftToExponent, still, Nat.cast_zero, add_zero]
  rfl

/-- A mantissa that rounding made one bit too long. -/
theorem shiftToTargetExponent_of_carry {e : Int} (least : -1074 ≤ e) :
    shiftToTargetExponent .binary64 (2 ^ 53) e .exact = (exactly (2 ^ 52), e + 1) := by
  have width : (Format.binary64.mantissaBits : Int) = 53 := rfl
  have lowest : Format.binary64.minExponent = -1074 := rfl
  have one : (Format.binary64.targetExponent (totalExponent (2 ^ 53) e) - e).toNat = 1 := by
    simp only [Format.targetExponent, totalExponent, width, lowest, Nat.log2_two_pow]
    omega
  rw [shiftToTargetExponent, shiftToExponent, one]
  exact congrArg (·, _) (exactly_shiftRight (2 ^ 52) 1)

/-- The number that is left after rounding has its form, and is what its mantissa says. -/
theorem roundWithAccuracy_spec {sign : Sign} {n : Nat} {e : Int} {count : Nat}
    (shifted : shiftToTargetExponent .binary64 n e .exact = (exactly n >>> count, e + count))
    (least : -1074 ≤ e + count) (most : nearest n count ≤ 2 ^ 53)
    (leading : -1074 < e + count → 2 ^ 52 ≤ nearest n count) :
    Regular (roundWithAccuracy .binary64 sign n e .exact) ∧
      units (roundWithAccuracy .binary64 sign n e .exact) =
        sign.apply (magnitude (nearest n count) (e + count)) := by
  -- The mantissa and the exponent that remain when a carry has been put right.
  obtain ⟨m, e', again, canonical, same⟩ : ∃ m e',
      shiftToTargetExponent .binary64 (nearest n count) (e + count) .exact = (exactly m, e') ∧
      Canonical .double m e' ∧ magnitude m e' = magnitude (nearest n count) (e + count) := by
    rcases most.eq_or_lt with carry | within
    · rw [carry]
      refine ⟨_, _, shiftToTargetExponent_of_carry least,
        canonical_iff.2 ⟨by omega, by omega, fun _ => le_rfl⟩, ?_⟩
      · have next : (e + count + 1 + 1074).toNat = (e + count + 1074).toNat + 1 := by omega
        rw [magnitude, magnitude, next, pow_succ]
        ring
    · exact ⟨_, _, shiftToTargetExponent_of_canonical least within,
        canonical_iff.2 ⟨least, within, leading⟩, rfl⟩
  have form : roundWithAccuracy .binary64 sign n e .exact =
      if some : m = 0 then .zero sign else .finite sign m e' (Nat.pos_of_ne_zero some) := by
    change shiftToTargetExponent .binary64 (exactly n >>> count).roundedMantissa _ _ = _ at again
    unfold roundWithAccuracy
    simp only [shifted, again]
    rfl
  rw [form, ← same]
  split
  · next zero =>
    obtain rfl : m = 0 := zero
    cases sign <;> simp [Regular, units, magnitude, Sign.apply]
  · cases sign <;> exact ⟨canonical, rfl⟩

/-- **Rounding a number**: it gets its form, and its value is rounded. -/
theorem round_spec {sign : Sign} {n : Nat} {e : Int} (some : n ≠ 0) (least : -1074 ≤ e) :
    Regular (UnpackedFloat.round .binary64 sign n e) ∧
      units (UnpackedFloat.round .binary64 sign n e) = sign.apply (rounded (magnitude n e)) := by
  have width : (Format.binary64.mantissaBits : Int) = 53 := rfl
  have lowest : Format.binary64.minExponent = -1074 := rfl
  -- The exponent is lowered to where it belongs, by zeros that do not count.
  obtain ⟨zeros, lowered⟩ : ∃ zeros,
      (e - Format.binary64.targetExponent (totalExponent n e)).toNat = zeros := ⟨_, rfl⟩
  have form : UnpackedFloat.round .binary64 sign n e =
      roundWithAccuracy .binary64 sign (n * 2 ^ zeros) (e - zeros) .exact := by
    simp only [UnpackedFloat.round, decreaseExponent, lowered, Nat.shiftLeft_eq]
  have log := log2_mul_two_pow some zeros
  simp only [Format.targetExponent, totalExponent, width, lowest] at lowered
  have same : magnitude (n * 2 ^ zeros) (e - zeros) = magnitude n e := by
    rw [magnitude, magnitude, mul_assoc, ← pow_add]
    congr 2
    omega
  -- Then it is raised past the bits that are too many.
  obtain ⟨count, raised⟩ : ∃ count, (Format.binary64.targetExponent
      (totalExponent (n * 2 ^ zeros) (e - zeros)) - (e - zeros)).toNat = count := ⟨_, rfl⟩
  have shifted : shiftToTargetExponent .binary64 (n * 2 ^ zeros) (e - zeros) .exact =
      (exactly (n * 2 ^ zeros) >>> count, e - zeros + count) := by
    rw [shiftToTargetExponent, shiftToExponent, raised]
  simp only [Format.targetExponent, totalExponent, width, lowest, log] at raised
  have dropped : excess (magnitude n e) = (e - zeros + 1074).toNat + count := by
    rw [excess, magnitude, log2_mul_two_pow some]
    omega
  have kept : nearest (magnitude n e) (excess (magnitude n e)) = nearest (n * 2 ^ zeros) count := by
    rw [dropped, ← same]
    exact nearest_mul _ _ _
  have value : rounded (magnitude n e) =
      magnitude (nearest (n * 2 ^ zeros) count) (e - zeros + count) := by
    rw [rounded, kept, dropped, magnitude]
    congr 2
    omega
  rw [form, value]
  refine roundWithAccuracy_spec shifted (by omega) ?_ fun above => ?_
  · exact kept ▸ nearest_excess_le _
  · exact kept ▸ le_nearest_excess (by omega)

/-- A whole multiple of the least double, rounded. -/
def roundedInt (z : Int) : Int := if 0 ≤ z then rounded z.toNat else -rounded (-z).toNat

theorem roundedInt_mono {z z' : Int} (below : z ≤ z') : roundedInt z ≤ roundedInt z' := by
  unfold roundedInt
  split <;> split
  · exact Int.ofNat_le.2 (rounded_mono (by omega))
  · omega
  · omega
  · exact Int.neg_le_neg (Int.ofNat_le.2 (rounded_mono (by omega)))

theorem roundedInt_of_nonneg (n : Nat) : roundedInt n = rounded n := by
  rw [roundedInt, if_pos (Int.natCast_nonneg n), Int.toNat_natCast]

theorem roundedInt_neg (n : Nat) : roundedInt (-n) = -rounded n := by
  rcases Nat.eq_zero_or_pos n with rfl | positive
  · rfl
  · rw [roundedInt, if_neg (by omega), neg_neg, Int.toNat_natCast]

/-- A sum of mantissas gets its form, and its value is rounded. -/
theorem normalize_spec {z : Int} {e : Int} (least : -1074 ≤ e) :
    Regular (UnpackedFloat.normalize .binary64 z e .positive) ∧
      units (UnpackedFloat.normalize .binary64 z e .positive) =
        roundedInt (z * 2 ^ (e + 1074).toNat) := by
  rcases lt_trichotomy z 0 with negative | rfl | positive
  · obtain ⟨n, rfl⟩ := Int.exists_eq_neg_ofNat negative.le
    have form : UnpackedFloat.normalize .binary64 (-n) e .positive =
        UnpackedFloat.round .binary64 .negative n e := by
      rw [UnpackedFloat.normalize, Int.compare_eq_lt.2 negative, neg_neg, Int.toNat_natCast]
    have value : (-n : Int) * 2 ^ (e + 1074).toNat = -(magnitude n e : Int) := by
      rw [magnitude]
      push_cast
      ring
    rw [form, value, roundedInt_neg]
    exact round_spec (by omega) least
  · rw [zero_mul]
    exact ⟨trivial, rfl⟩
  · obtain ⟨n, rfl⟩ := Int.eq_ofNat_of_zero_le positive.le
    have form : UnpackedFloat.normalize .binary64 n e .positive =
        UnpackedFloat.round .binary64 .positive n e := by
      rw [UnpackedFloat.normalize, Int.compare_eq_gt.2 positive, Int.toNat_natCast]
    have value : (n : Int) * 2 ^ (e + 1074).toNat = (magnitude n e : Int) := by
      rw [magnitude]
      push_cast
      ring
    rw [form, value, roundedInt_of_nonneg]
    exact round_spec (by omega) least

end Storyboard.Double

import Mathlib.Algebra.Order.Field.Power
import Mathlib.Algebra.Order.Field.Rat
import Mathlib.Tactic.FieldSimp
import Mathlib.Tactic.Linarith
import Mathlib.Tactic.Ring
import Storyboard.Decimal.Binary

/-!
# Exact values

A fraction that a format can hold is not changed by rounding: the pattern nearest to the value of a
pattern is that pattern, however the fraction is written.
-/

namespace Storyboard.Decimal

/-! ## Fractions -/

theorem scaleTwo_pos {power : Int} {num den : Nat} (positive : 0 < den) :
    0 < (scaleTwo power num den).2 := by
  unfold scaleTwo
  split
  · exact positive
  · exact Nat.mul_pos positive (Nat.pow_pos Nat.two_pos)

/-- Scaling is multiplication by a power of two. -/
theorem scaleTwo_value (power : Int) (num den : Nat) :
    ((scaleTwo power num den).1 : ℚ) / (scaleTwo power num den).2 = num / den * 2 ^ power := by
  unfold scaleTwo
  split
  · next up =>
    obtain ⟨n, rfl⟩ := Int.eq_ofNat_of_zero_le up
    simp only [Nat.pow_eq, Int.toNat_natCast, Nat.cast_mul, Nat.cast_pow, Nat.cast_ofNat,
      zpow_natCast]
    ring
  · next down =>
    obtain ⟨n, rfl⟩ := Int.exists_eq_neg_ofNat (by omega : power ≤ 0)
    simp only [Nat.pow_eq, neg_neg, Int.toNat_natCast, Nat.cast_mul, Nat.cast_pow, Nat.cast_ofNat,
      zpow_neg, zpow_natCast]
    field_simp

/-- A whole number is rounded to itself. -/
theorem roundDiv_mul (m : Nat) {d : Nat} (positive : 0 < d) : roundDiv (m * d) d = m := by
  simp [roundDiv, Nat.mul_div_cancel m positive, positive]

/-- A count lies between two powers of two, by its length. -/
theorem log2_bounds {n : Nat} (some : n ≠ 0) :
    (2 : ℚ) ^ (n.log2 : Int) ≤ n ∧ (n : ℚ) < 2 ^ ((n.log2 : Int) + 1) := by
  constructor
  · rw [zpow_natCast]
    exact_mod_cast Nat.log2_self_le some
  · rw [← Nat.cast_succ, zpow_natCast]
    exact_mod_cast Nat.lt_log2_self

/-- A fraction lies near the power of two that the lengths of its parts give. -/
theorem log2_div_bounds {num den : Nat} (some : num ≠ 0) (positive : 0 < den) :
    (2 : ℚ) ^ ((num.log2 : Int) - den.log2 - 1) < num / den ∧
      (num / den : ℚ) < 2 ^ ((num.log2 : Int) - den.log2 + 1) := by
  obtain ⟨numAbove, numBelow⟩ := log2_bounds some
  obtain ⟨denAbove, denBelow⟩ := log2_bounds (Nat.pos_iff_ne_zero.1 positive)
  have den' : (0 : ℚ) < den := by exact_mod_cast positive
  constructor
  · rw [lt_div_iff₀ den']
    calc
      (2 : ℚ) ^ ((num.log2 : Int) - den.log2 - 1) * den <
          2 ^ ((num.log2 : Int) - den.log2 - 1) * 2 ^ ((den.log2 : Int) + 1) :=
        mul_lt_mul_of_pos_left denBelow (by positivity)
      _ = 2 ^ (num.log2 : Int) := by rw [← zpow_add₀ two_ne_zero]; congr 1; omega
      _ ≤ num := numAbove
  · rw [div_lt_iff₀ den']
    calc
      (num : ℚ) < 2 ^ ((num.log2 : Int) + 1) := numBelow
      _ = 2 ^ ((num.log2 : Int) - den.log2 + 1) * 2 ^ (den.log2 : Int) := by
        rw [← zpow_add₀ two_ne_zero]; congr 1; omega
      _ ≤ 2 ^ ((num.log2 : Int) - den.log2 + 1) * den :=
        mul_le_mul_of_nonneg_left denAbove (by positivity)

/-- The power of two below a fraction, found by one comparison. -/
theorem top_bounds {num den : Nat} (some : num ≠ 0) (positive : 0 < den) {guess top : Int}
    (near : guess = num.log2 - den.log2)
    (found : top = if (scaleTwo (-guess) num den).1 < (scaleTwo (-guess) num den).2 then guess - 1
      else guess) :
    (2 : ℚ) ^ top ≤ num / den ∧ (num / den : ℚ) < 2 ^ (top + 1) := by
  obtain ⟨above, below⟩ := log2_div_bounds some positive
  rw [← near] at above below
  have scaled := scaleTwo_value (-guess) num den
  have positive' : (0 : ℚ) < (scaleTwo (-guess) num den).2 := by
    exact_mod_cast scaleTwo_pos positive
  rw [zpow_neg, ← div_eq_mul_inv, div_eq_div_iff positive'.ne' (by positivity)] at scaled
  split at found
  · next less =>
    rw [found]
    refine ⟨above.le, ?_⟩
    have less' : ((scaleTwo (-guess) num den).1 : ℚ) < (scaleTwo (-guess) num den).2 := by
      exact_mod_cast less
    rw [sub_add_cancel]
    nlinarith [zpow_pos (two_pos : (0 : ℚ) < 2) guess]
  · next notLess =>
    rw [found]
    refine ⟨?_, below⟩
    have notLess' : ((scaleTwo (-guess) num den).2 : ℚ) ≤ (scaleTwo (-guess) num den).1 := by
      exact_mod_cast not_lt.1 notLess
    nlinarith [zpow_pos (two_pos : (0 : ℚ) < 2) guess]

namespace Format

variable {fmt : Format}

/-! ## Patterns -/

/-- A mantissa and an exponent as a format keeps them: the mantissa has its leading bit unless the
exponent is the least. -/
structure Canonical (fmt : Format) (m : Nat) (e : Int) : Prop where
  least : fmt.leastExponent ≤ e
  below : m < 2 ^ (fmt.mantissaBits + 1)
  leading : fmt.leastExponent < e → 2 ^ fmt.mantissaBits ≤ m

/-- The pattern of a mantissa and an exponent. -/
def pattern (fmt : Format) (m : Nat) (e : Int) : Nat :=
  (e - fmt.leastExponent).toNat * 2 ^ fmt.mantissaBits + m

/-- The sign of a pattern. -/
def signOf (fmt : Format) (negative : Bool) : Nat := if negative then fmt.signBit else 0

/-- The value of the three fields of a pattern. -/
theorem value_fields {field rest : Nat} (below : rest < 2 ^ fmt.mantissaBits)
    (finite : field + 1 < 2 ^ fmt.exponentBits) (negative : Bool) :
    fmt.value (field * 2 ^ fmt.mantissaBits + rest + fmt.signOf negative) =
      if field = 0 then .finite negative rest fmt.leastExponent
      else .finite negative (rest + 2 ^ fmt.mantissaBits) (fmt.leastExponent + field - 1) := by
  have parts : field * 2 ^ fmt.mantissaBits + rest + fmt.signOf negative =
      rest + 2 ^ fmt.mantissaBits * (field + 2 ^ fmt.exponentBits * negative.toNat) := by
    unfold signOf signBit
    rw [Nat.pow_eq, pow_add]
    cases negative <;> simp <;> ring
  have mantissa : (rest + 2 ^ fmt.mantissaBits * (field + 2 ^ fmt.exponentBits * negative.toNat)) %
      2 ^ fmt.mantissaBits = rest := by
    rw [Nat.add_mul_mod_self_left, Nat.mod_eq_of_lt below]
  have exponent : (rest + 2 ^ fmt.mantissaBits * (field + 2 ^ fmt.exponentBits * negative.toNat)) /
      2 ^ fmt.mantissaBits % 2 ^ fmt.exponentBits = field := by
    rw [Nat.add_mul_div_left _ _ (by positivity), Nat.div_eq_of_lt below, zero_add,
      Nat.add_mul_mod_self_left, Nat.mod_eq_of_lt (by omega)]
  have sign : decide (fmt.signBit ≤
      rest + 2 ^ fmt.mantissaBits * (field + 2 ^ fmt.exponentBits * negative.toNat)) = negative := by
    have bit : fmt.signBit = 2 ^ fmt.mantissaBits * 2 ^ fmt.exponentBits := by
      rw [signBit, Nat.pow_eq, pow_add]
    rw [bit]
    cases negative
    · rw [decide_eq_false_iff_not, not_le, Bool.toNat_false, mul_zero, add_zero]
      nlinarith
    · rw [decide_eq_true_eq, Bool.toNat_true, mul_one, mul_add]
      omega
  rw [parts, value, Nat.pow_eq, Nat.pow_eq, mantissa, exponent, sign, if_neg (by omega)]

/-- Every pattern is that of a mantissa and an exponent. -/
theorem exists_canonical (fmt : Format) (bits : Nat) :
    ∃ m e, fmt.Canonical m e ∧ fmt.pattern m e = bits := by
  have positive : 0 < 2 ^ fmt.mantissaBits := by positivity
  have parts := Nat.div_add_mod' bits (2 ^ fmt.mantissaBits)
  have below := Nat.mod_lt bits positive
  have width : 2 ^ (fmt.mantissaBits + 1) = 2 * 2 ^ fmt.mantissaBits := by ring
  generalize bits / 2 ^ fmt.mantissaBits = field at parts
  generalize bits % 2 ^ fmt.mantissaBits = rest at parts below
  cases field with
  | zero =>
    refine ⟨rest, fmt.leastExponent, ⟨le_rfl, by omega, fun more => absurd more (lt_irrefl _)⟩, ?_⟩
    simpa [pattern] using parts
  | succ field =>
    refine ⟨rest + 2 ^ fmt.mantissaBits, fmt.leastExponent + field, ⟨by omega, by omega, ?_⟩, ?_⟩
    · intro _
      omega
    · rw [pattern, add_sub_cancel_left, Int.toNat_natCast, ← parts]
      ring

/-- The value of a pattern. -/
theorem value_pattern {m : Nat} {e : Int} (kept : fmt.Canonical m e)
    (finite : fmt.pattern m e < fmt.infinityBits) (negative : Bool) :
    fmt.value (fmt.pattern m e + fmt.signOf negative) = .finite negative m e := by
  have positive : 0 < 2 ^ fmt.mantissaBits := by positivity
  obtain ⟨step, rfl⟩ := Int.le.dest kept.least
  have width := kept.below
  rw [pow_succ] at width
  rw [infinityBits, Nat.pow_eq, Nat.pow_eq] at finite
  simp only [pattern, add_sub_cancel_left, Int.toNat_natCast] at finite ⊢
  by_cases leading : 2 ^ fmt.mantissaBits ≤ m
  · obtain ⟨rest, rfl⟩ := Nat.exists_eq_add_of_le' leading
    have inside : step + 1 + 1 < 2 ^ fmt.exponentBits := by
      by_contra past
      have : (2 ^ fmt.exponentBits - 1) * 2 ^ fmt.mantissaBits ≤ (step + 1) * 2 ^ fmt.mantissaBits :=
        Nat.mul_le_mul_right _ (by omega)
      rw [add_mul] at this
      omega
    have parts : step * 2 ^ fmt.mantissaBits + (rest + 2 ^ fmt.mantissaBits) =
        (step + 1) * 2 ^ fmt.mantissaBits + rest := by ring
    rw [parts, value_fields (by omega) inside, if_neg (Nat.succ_ne_zero _)]
    congr 1
    push_cast
    ring
  · have none : step = 0 := by
      by_contra some
      exact leading (kept.leading (by omega))
    subst none
    have inside : 0 + 1 < 2 ^ fmt.exponentBits := by
      by_contra past
      have : 2 ^ fmt.exponentBits - 1 = 0 := by omega
      rw [this] at finite
      omega
    rw [value_fields (by omega) inside, if_pos rfl]
    simp

/-! ## Rounding -/

theorem nearest_le (num den : Nat) : fmt.nearest num den ≤ fmt.infinityBits := by
  unfold nearest
  split
  · exact Nat.zero_le _
  · exact min_le_right _ _

/-- The exponent of a value follows from the power of two below it. -/
theorem Canonical.exponent_eq {m : Nat} {e top : Int} (kept : fmt.Canonical m e)
    (above : (2 : ℚ) ^ top ≤ m * 2 ^ e) (below : (m * 2 ^ e : ℚ) < 2 ^ (top + 1)) :
    max (top - fmt.mantissaBits) fmt.leastExponent = e := by
  have lower : top < fmt.mantissaBits + 1 + e := by
    have upper : (m : ℚ) * 2 ^ e < 2 ^ ((fmt.mantissaBits : Int) + 1 + e) := by
      rw [zpow_add₀ two_ne_zero]
      refine mul_lt_mul_of_pos_right ?_ (by positivity)
      exact_mod_cast kept.below
    exact (zpow_lt_zpow_iff_right₀ one_lt_two).1 (above.trans_lt upper)
  rcases eq_or_lt_of_le kept.least with least | more
  · omega
  · have upper : (fmt.mantissaBits : Int) + e < top + 1 := by
      have lower : (2 : ℚ) ^ ((fmt.mantissaBits : Int) + e) ≤ m * 2 ^ e := by
        rw [zpow_add₀ two_ne_zero]
        refine mul_le_mul_of_nonneg_right ?_ (by positivity)
        exact_mod_cast kept.leading more
      exact (zpow_lt_zpow_iff_right₀ one_lt_two).1 (lower.trans_lt below)
    omega

/-- What a format can hold is not changed by rounding. -/
theorem nearest_eq {m : Nat} {e : Int} (kept : fmt.Canonical m e)
    (finite : fmt.pattern m e < fmt.infinityBits) {num den : Nat} (positive : 0 < den)
    (value : (num / den : ℚ) = m * 2 ^ e) : fmt.nearest num den = fmt.pattern m e := by
  have den' : (den : ℚ) ≠ 0 := by exact_mod_cast positive.ne'
  unfold nearest
  split
  · next zero =>
    have none : m = 0 := by
      rw [zero, Nat.cast_zero, zero_div] at value
      have powers : (2 : ℚ) ^ e ≠ 0 := zpow_ne_zero e two_ne_zero
      simpa [powers] using value.symm
    subst none
    have least : e = fmt.leastExponent := by
      by_contra other
      have := kept.leading (lt_of_le_of_ne kept.least (Ne.symm other))
      simp at this
    simp [pattern, least]
  · next some =>
    generalize near : (num.log2 : Int) - den.log2 = guess
    dsimp only
    generalize found : (if (scaleTwo (-guess) num den).1 < (scaleTwo (-guess) num den).2 then
      guess - 1 else guess) = top
    obtain ⟨above, below⟩ := top_bounds some positive near.symm found.symm
    have exponent := kept.exponent_eq (value ▸ above) (value ▸ below)
    rw [exponent]
    have whole : (scaleTwo (-e) num den).1 = m * (scaleTwo (-e) num den).2 := by
      have scaled := scaleTwo_value (-e) num den
      have positive' : ((scaleTwo (-e) num den).2 : ℚ) ≠ 0 := by
        exact_mod_cast (scaleTwo_pos positive).ne'
      rw [value, mul_assoc, ← zpow_add₀ two_ne_zero, add_neg_cancel, zpow_zero, mul_one,
        div_eq_iff positive'] at scaled
      exact_mod_cast scaled
    rw [whole, roundDiv_mul m (scaleTwo_pos positive), Nat.pow_eq]
    exact min_eq_left finite.le

end Format

end Storyboard.Decimal

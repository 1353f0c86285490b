import Mathlib.Algebra.Order.Field.Rat
import Storyboard.Position

/-!
# Positions and anchors without rounding

In exact numbers a position comes back from percent as it was, and an element that is placed at the
distance of its start from an anchor starts where it did.
-/

namespace Storyboard

theorem ofNat_rat (n : Nat) : (Measure.ofNat n : Rat) = n := by
  change (Rat.ofScientific n false 0 : Rat) = n
  rw [Rat.ofScientific_false_def]
  simp

/-- Lengths in percent of a positive size are undone. -/
theorem ofPercent_toPercent (value : Rat) {size : Nat} (positive : 0 < size) :
    ofPercent (toPercent value (Measure.ofNat size)) (Measure.ofNat size) = value := by
  have nonzero : (size : Rat) ≠ 0 := by exact_mod_cast positive.ne'
  have above : Measure.le (Measure.ofNat size : Rat) Measure.zero = false := by
    refine decide_eq_false ?_
    rw [Measure.zero, ofNat_rat, ofNat_rat]
    exact not_le.2 (by exact_mod_cast positive)
  have finite : Measure.isFinite (Measure.ofNat size : Rat) = true := rfl
  have hundred : (100.0 : Rat) ≠ 0 := by
    change Rat.ofScientific 1000 true 1 ≠ 0
    rw [Rat.ofScientific_true_def]
    decide +kernel
  unfold ofPercent toPercent
  rw [above, finite, ofNat_rat]
  change value / size * (100.0 : Rat) / (100.0 : Rat) * size = value
  rw [mul_div_cancel_right₀ _ hundred, div_mul_cancel₀ _ nonzero]

theorem PixelPosition.toPixels_toPercent (p : PixelPosition Rat) {size : Size}
    (width : 0 < size.width) (height : 0 < size.height) :
    (p.toPercent size).toPixels size = p := by
  have wide := fun value => ofPercent_toPercent value width
  have high := fun value => ofPercent_toPercent value height
  obtain ⟨x, y, rotation, w, h⟩ := p
  simp [toPercent, PercentPosition.toPixels, wide, high, Function.comp_def]

theorem Canvas.size_pos (c : Canvas) : 0 < c.size.width ∧ 0 < c.size.height := by
  simp [Canvas.size, Size.clamped]

/-- The distance from an anchor leads back to the start. -/
theorem relativeStart_distance (anchorStart anchorDuration : Rat) (anchor : Anchor) (start : Rat) :
    relativeStart anchorStart anchorDuration anchor
      (start - anchorTime anchorStart anchorDuration anchor) = start :=
  add_sub_cancel _ _

end Storyboard

import Storyboard.Position
import Storyboard.Proofs.Comparison

/-!
# Bounds on times

What is assumed of numbers where a time is to be kept within bounds: they stand in one line, in
which only what is no number has no place, and a sum does not become less when its parts become
more. Exact numbers have it. So have double-precision ones, since rounding keeps the order of sums.
-/

namespace Storyboard

open Storyboard.Measure (isNaN isFinite zero le lt cap capAt nonneg)

/-- Numbers stand in one line, and sums keep to it. -/
class LinearMeasure (τ : Type) [Measure τ] : Prop where
  le_of_lt : ∀ {a b : τ}, lt a b = true → le a b = true
  le_of_not_lt : ∀ {a b : τ}, isNaN a = false → isNaN b = false → lt b a = false → le a b = true
  isNaN_zero : isNaN (zero : τ) = false
  isNaN_of_le : ∀ {a b : τ}, le a b = true → isNaN a = false ∧ isNaN b = false
  isNaN_of_isFinite : ∀ {a : τ}, isFinite a = true → isNaN a = false
  isNaN_of_add : ∀ {a b : τ}, isNaN (a + b) = false → isNaN a = false ∧ isNaN b = false
  add_le_add : ∀ {a b c d : τ}, le a b = true → le c d = true → isNaN (a + c) = false →
    isNaN (b + d) = false → le (a + c) (b + d) = true

theorem le_rat_iff {a b : Rat} : le a b = true ↔ a ≤ b := decide_eq_true_iff

theorem isNaN_rat (a : Rat) : isNaN a = false := by
  rw [isNaN, le_rat_iff.2 le_rfl]
  rfl

instance : LinearMeasure Rat where
  le_of_lt below := le_rat_iff.2 (lt_rat_iff.1 below).le
  le_of_not_lt _ _ notBelow := le_rat_iff.2 (not_lt.1 (of_decide_eq_false notBelow))
  isNaN_zero := isNaN_rat _
  isNaN_of_le _ := ⟨isNaN_rat _, isNaN_rat _⟩
  isNaN_of_isFinite _ := isNaN_rat _
  isNaN_of_add _ := ⟨isNaN_rat _, isNaN_rat _⟩
  add_le_add first second _ _ :=
    le_rat_iff.2 (add_le_add (le_rat_iff.1 first) (le_rat_iff.1 second))

namespace Measure

variable {τ : Type} [Measure τ]

/-- A number is at most itself. -/
theorem le_refl_of_number {a : τ} (number : isNaN a = false) : le a a = true := by
  simpa [isNaN] using number

variable [LinearMeasure τ] {limit : τ}

/-- **A limit binds**: what is kept under a limit does not lie above it. -/
theorem cap_le (number : isNaN limit = false) (a : τ) : le (cap a limit) limit = true := by
  unfold cap
  split
  · exact le_refl_of_number number
  · next within =>
    obtain ⟨notAbove, numberA⟩ := Bool.or_eq_false_iff.1 (Bool.eq_false_of_not_eq_true within)
    exact LinearMeasure.le_of_not_lt numberA number notAbove

theorem zero_le_of_not_lt {a : τ} (number : isNaN a = false) (notBelow : lt a zero = false) :
    le zero a = true :=
  LinearMeasure.le_of_not_lt LinearMeasure.isNaN_zero number notBelow

/-- A limit that is not negative makes nothing negative. -/
theorem zero_le_capAt {a : τ} {limit : Option τ} (bound : ∀ m, limit = some m → lt m zero = false)
    (positive : le zero a = true) : le zero (capAt limit a) = true := by
  cases limit with
  | none => exact positive
  | some m =>
    change le zero (cap a m) = true
    unfold cap
    split
    · next binds =>
      have number := (LinearMeasure.isNaN_of_le positive).2
      rw [number, Bool.or_false] at binds
      have numberM := (LinearMeasure.isNaN_of_le (LinearMeasure.le_of_lt binds)).1
      exact zero_le_of_not_lt numberM (bound m rfl)
    · exact positive

/-- What is floored at zero is not negative. -/
theorem zero_le_nonneg (a : τ) : le zero (nonneg a) = true := by
  unfold nonneg
  split
  · next positive => exact LinearMeasure.le_of_lt positive
  · exact le_refl_of_number LinearMeasure.isNaN_zero

end Measure

/-- What is anchored to the end of something starts no later than it would if that lasted longer. -/
theorem relativeStart_mono {τ : Type} [Measure τ] [LinearMeasure τ] {start length longer offset : τ}
    (within : le length longer = true)
    (number : isNaN (relativeStart start length .finish offset) = false)
    (number' : isNaN (relativeStart start longer .finish offset) = false) :
    le (relativeStart start length .finish offset)
      (relativeStart start longer .finish offset) = true := by
  obtain ⟨finish, offsetNumber⟩ := LinearMeasure.isNaN_of_add number
  have finish' := (LinearMeasure.isNaN_of_add number').1
  have startNumber := (LinearMeasure.isNaN_of_add finish).1
  have ends : le (start + length) (start + longer) = true :=
    LinearMeasure.add_le_add (Measure.le_refl_of_number startNumber) within finish finish'
  exact LinearMeasure.add_le_add ends (Measure.le_refl_of_number offsetNumber) number number'

end Storyboard

import Mathlib.Data.Prod.Lex
import Storyboard.Proofs.Comparison
import Storyboard.Proofs.Double.Pattern

/-!
# The order of doubles

Doubles that are numbers stand in one line: by their sign, among those of one sign by their
exponent, and among those of one exponent by their mantissa. Comparing doubles is comparing their
places in this line, and what is no number has no place in it.
-/

namespace Storyboard.Double

open Float.Model (UnpackedFloat)

/-- A place in the line of numbers. -/
abbrev Place := Int ×ₗ Int ×ₗ Int

/-- The place of an unpacked number; what is no number has none. -/
def placeOf : UnpackedFloat → Option Place
  | .notANumber => none
  | .infinity .negative => some (toLex (-2, toLex (0, 0)))
  | .finite .negative m e _ => some (toLex (-1, toLex (-e, -m)))
  | .zero _ => some (toLex (0, toLex (0, 0)))
  | .finite .positive m e _ => some (toLex (1, toLex (e, m)))
  | .infinity .positive => some (toLex (2, toLex (0, 0)))

/-- The place of a double. -/
def place (x : Float) : Option Place := placeOf x.toModel.unpack

theorem compare_neg (a b : Int) : compare (-a) (-b) = (compare a b).swap := by
  rcases lt_trichotomy a b with below | rfl | above
  · rw [compare_lt_iff_lt.2 below, compare_gt_iff_gt.2 (by omega)]
    rfl
  · simp
  · rw [compare_gt_iff_gt.2 above, compare_lt_iff_lt.2 (by omega)]
    rfl

theorem compare_ofNat (m n : Nat) : compare m n = compare (m : Int) (n : Int) := by
  rcases lt_trichotomy m n with below | rfl | above
  · rw [compare_lt_iff_lt.2 below, compare_lt_iff_lt.2 (Int.ofNat_lt.2 below)]
  · simp
  · rw [compare_gt_iff_gt.2 above, compare_gt_iff_gt.2 (Int.ofNat_lt.2 above)]

/-- Comparing unpacked numbers is comparing their places. -/
theorem compare_eq (a b : UnpackedFloat) :
    a.compare b = (placeOf a).bind fun x => (placeOf b).map fun y => compare x y := by
  -- Only two finite numbers of one sign have more than their kinds compared.
  rcases a with (_ | _) | _ | (_ | _) | ⟨_ | _, m, e, _⟩ <;>
    rcases b with (_ | _) | _ | (_ | _) | ⟨_ | _, m', e', _⟩ <;>
    first
    | rfl
    | simp [UnpackedFloat.compare, placeOf, Prod.Lex.compare_def, compareLex, compareOn,
        compare_neg, compare_ofNat, Ordering.swap_then]

theorem lt_iff {a b : Float} :
    Measure.lt a b = true ↔ ∃ x y, place a = some x ∧ place b = some y ∧ x < y := by
  have unfolded : Measure.lt a b = (a.toModel.unpack.compare b.toModel.unpack == some .lt) := by
    simp only [Measure.lt, Float.lt]
    exact Bool.decide_eq_true
  rw [unfolded, compare_eq, ← place, ← place]
  cases place a <;> cases place b <;> simp [compare_lt_iff_lt]

theorem le_iff {a b : Float} :
    Measure.le a b = true ↔ ∃ x y, place a = some x ∧ place b = some y ∧ x ≤ y := by
  have unfolded : Measure.le a b = (a.toModel.unpack.compare b.toModel.unpack).any (·.isLE) := by
    simp only [Measure.le, Float.le]
    exact Bool.decide_eq_true
  rw [unfolded, compare_eq, ← place, ← place]
  cases place a <;> cases place b <;> simp [Ordering.isLE_iff_ne_gt, compare_le_iff_le]

/-- Two doubles are equal where they stand in one place. -/
theorem beq_iff {a b : Float} : (a == b) = true ↔ ∃ x, place a = some x ∧ place b = some x := by
  have unfolded : (a == b) = (a.toModel.unpack.compare b.toModel.unpack == some .eq) := rfl
  rw [unfolded, compare_eq, ← place, ← place]
  cases place a <;> cases place b <;> simp [compare_eq_iff_eq]
  exact eq_comm

theorem beq_comm (a b : Float) : (a == b) = (b == a) := by
  rw [Bool.eq_iff_iff, beq_iff, beq_iff]
  exact exists_congr fun _ => and_comm

/-- A double is a number when it has a place. -/
theorem isNaN_iff {a : Float} : a.isNaN = true ↔ place a = none := by
  unfold Float.isNaN Float.Model.isNaN place
  rcases a.toModel.unpack with (_ | _) | _ | _ | ⟨_ | _, _, _, _⟩ <;>
    simp [placeOf, UnpackedFloat.isNaN]

/-- Of two numbers one is at most the other. -/
theorem le_of_not_lt {a b : Float} (numberA : a.isNaN = false) (numberB : b.isNaN = false)
    (not : Measure.lt b a = false) : Measure.le a b = true := by
  rw [← Bool.not_eq_true, isNaN_iff] at numberA numberB
  obtain ⟨x, placeA⟩ := Option.ne_none_iff_exists'.1 numberA
  obtain ⟨y, placeB⟩ := Option.ne_none_iff_exists'.1 numberB
  refine le_iff.2 ⟨x, y, placeA, placeB, ?_⟩
  by_contra above
  rw [lt_iff.2 ⟨y, x, placeB, placeA, not_le.1 above⟩] at not
  cases not

theorem lt_of_lt_of_le {a b c : Float} (below : Measure.lt a b = true)
    (upTo : Measure.le b c = true) : Measure.lt a c = true := by
  obtain ⟨x, y, placeA, placeB, below⟩ := lt_iff.1 below
  obtain ⟨y', z, placeB', placeC, upTo⟩ := le_iff.1 upTo
  obtain rfl : y = y' := Option.some.inj (placeB.symm.trans placeB')
  exact lt_iff.2 ⟨x, z, placeA, placeC, below.trans_le upTo⟩

theorem place_zero : place Measure.zero = some (toLex (0, toLex (0, 0))) := by decide

/-- What stands above zero is infinite or has a mantissa and an exponent. -/
theorem placeOf_positive {u : UnpackedFloat} {x : Place} (here : placeOf u = some x)
    (positive : toLex (0, toLex (0, 0)) < x) :
    (u = .infinity .positive ∧ x = toLex (2, toLex (0, 0))) ∨
      ∃ m e some, u = .finite .positive m e some ∧ x = toLex (1, toLex (e, (m : Int))) := by
  rcases u with (_ | _) | _ | _ | ⟨_ | _, m, e, some⟩
  case infinity.positive => exact .inl ⟨rfl, (Option.some.inj here).symm⟩
  case finite.positive => exact .inr ⟨m, e, some, rfl, (Option.some.inj here).symm⟩
  case notANumber => cases here
  all_goals
    obtain rfl := Option.some.inj here
    simp [Prod.Lex.toLex_lt_toLex] at positive

/-- Above zero no two doubles stand in one place. -/
theorem eq_of_place {a b : Float} {x : Place} (placeA : place a = some x)
    (placeB : place b = some x) (positive : toLex (0, toLex (0, 0)) < x) : a = b := by
  apply eq_of_unpack_eq
  rcases placeOf_positive placeA positive with ⟨unpackA, rfl⟩ | ⟨m, e, _, unpackA, rfl⟩ <;>
    rcases placeOf_positive placeB positive with ⟨unpackB, same⟩ | ⟨m', e', _, unpackB, same⟩
  · rw [unpackA, unpackB]
  · simp at same
  · simp at same
  · obtain ⟨rfl, rfl⟩ : e = e' ∧ m = m' := by simpa using same
    rw [unpackA, unpackB]

/-! ## Infinities -/

/-- The place below all others, that of the negative infinity. -/
def lowest : Place := toLex (-2, toLex (0, 0))

/-- The place above all others, that of the positive infinity. -/
def highest : Place := toLex (2, toLex (0, 0))

theorem between_placeOf {u : UnpackedFloat} {x : Place} (here : placeOf u = some x) :
    lowest ≤ x ∧ x ≤ highest ∧ (u.isFinite = true ↔ lowest < x ∧ x < highest) := by
  rcases u with (_ | _) | _ | (_ | _) | ⟨_ | _, m, e, _⟩ <;> cases here <;>
    simp [lowest, highest, Prod.Lex.toLex_le_toLex, Prod.Lex.toLex_lt_toLex, UnpackedFloat.isFinite]

/-- A finite double has a place between the infinities. -/
theorem isFinite_iff_place {a : Float} :
    a.isFinite = true ↔ ∃ x, place a = some x ∧ lowest < x ∧ x < highest := by
  have unfolded : a.isFinite = a.toModel.unpack.isFinite := rfl
  rw [unfolded, place]
  cases here : placeOf a.toModel.unpack with
  | none =>
    generalize a.toModel.unpack = u at here
    rcases u with (_ | _) | _ | (_ | _) | ⟨_ | _, m, e, _⟩ <;> cases here
    simp [UnpackedFloat.isFinite]
  | some x =>
    rw [(between_placeOf here).2.2]
    simp

theorem not_between {a : Float} {x : Place} (here : place a = some x)
    (infinite : a.isFinite = false) (above : lowest < x) : highest ≤ x := by
  rw [← Bool.not_eq_true, isFinite_iff_place] at infinite
  exact not_lt.1 fun below => infinite ⟨x, here, above, below⟩

theorem lowest_lt_zero : lowest < toLex (0, toLex (0, 0)) := by decide

theorem zero_lt_highest : toLex (0, toLex (0, 0)) < highest := by decide

/-- Finite doubles lie below what lies above zero and is not finite. -/
theorem lt_of_infinite {a b : Float} (finite : a.isFinite = true) (positive : Measure.zero < b)
    (infinite : b.isFinite = false) : a < b := by
  obtain ⟨x, placeA, -, below⟩ := isFinite_iff_place.1 finite
  obtain ⟨zero, y, placeZero, placeB, above⟩ := lt_iff.1 positive
  obtain rfl := Option.some.inj (place_zero.symm.trans placeZero)
  exact lt_iff.2
    ⟨x, y, placeA, placeB,
      below.trans_le (not_between placeB infinite (lowest_lt_zero.trans above))⟩

/-- They lie above what lies below zero and is not finite. -/
theorem lt_of_infinite_neg {a b : Float} (finite : a.isFinite = true) (negative : b < Measure.zero)
    (infinite : b.isFinite = false) : b < a := by
  obtain ⟨x, placeA, above, -⟩ := isFinite_iff_place.1 finite
  obtain ⟨y, zero, placeB, placeZero, below⟩ := lt_iff.1 negative
  obtain rfl := Option.some.inj (place_zero.symm.trans placeZero)
  refine lt_iff.2 ⟨y, x, placeB, placeA, lt_of_le_of_lt (not_lt.1 fun inside => ?_) above⟩
  exact absurd (not_between placeB infinite inside) (not_le.2 (below.trans zero_lt_highest))

/-- Nothing lies below what is not finite, unless it lies above zero. -/
theorem not_lt_of_infinite {a b : Float} (notPositive : ¬ Measure.zero < b)
    (infinite : b.isFinite = false) : ¬ a < b := by
  intro below
  obtain ⟨x, y, placeA, placeB, below⟩ := lt_iff.1 below
  have inside := (between_placeOf placeA).1.trans_lt below
  refine notPositive (lt_iff.2 ⟨_, y, place_zero, placeB, ?_⟩)
  exact zero_lt_highest.trans_le (not_between placeB infinite inside)

/-- Doubles are told apart by comparisons, but for the two zeros and what is no number. -/
instance : OrderedMeasure Float where
  lt_irrefl a := by
    rw [← Bool.not_eq_true, lt_iff]
    rintro ⟨x, y, placeX, placeY, below⟩
    obtain rfl : x = y := Option.some.inj (placeX.symm.trans placeY)
    exact lt_irrefl x below
  lt_trans first second := by
    obtain ⟨x, y, placeA, placeB, below⟩ := lt_iff.1 first
    obtain ⟨y', z, placeB', placeC, below'⟩ := lt_iff.1 second
    obtain rfl : y = y' := Option.some.inj (placeB.symm.trans placeB')
    exact lt_iff.2 ⟨x, z, placeA, placeC, below.trans below'⟩
  eq_of_not_lt positiveA positiveB notBelow notAbove := by
    obtain ⟨zero, x, placeZero, placeA, positive⟩ := lt_iff.1 positiveA
    obtain ⟨_, y, _, placeB, _⟩ := lt_iff.1 positiveB
    obtain rfl : toLex (0, toLex (0, 0)) = zero := Option.some.inj (place_zero.symm.trans placeZero)
    have same : x = y := by
      rw [← Bool.not_eq_true, lt_iff] at notBelow notAbove
      refine le_antisymm (not_lt.1 fun above => notAbove ?_) (not_lt.1 fun below => notBelow ?_)
      · exact ⟨y, x, placeB, placeA, above⟩
      · exact ⟨x, y, placeA, placeB, below⟩
    subst same
    exact eq_of_place placeA placeB positive

end Storyboard.Double

import Mathlib.Algebra.Order.Ring.Rat
import Mathlib.Data.Set.Insert
import Storyboard.Measure

/-!
# Comparing times

What is assumed of comparisons where the latest of many times must not depend on the order in which
they are looked at. Exact numbers have it. So have double-precision ones: a value that is no number
lies neither above nor below anything, and two positive values neither of which lies below the
other are the same.
-/

namespace Storyboard

/-- Comparisons form a strict order that tells positive values apart. -/
class OrderedMeasure (τ : Type) [Measure τ] : Prop where
  lt_irrefl : ∀ a : τ, Measure.lt a a = false
  lt_trans : ∀ {a b c : τ}, Measure.lt a b = true → Measure.lt b c = true → Measure.lt a c = true
  eq_of_not_lt : ∀ {a b : τ}, Measure.lt Measure.zero a = true → Measure.lt Measure.zero b = true →
    Measure.lt a b = false → Measure.lt b a = false → a = b

theorem lt_rat_iff {a b : Rat} : Measure.lt a b = true ↔ a < b := decide_eq_true_iff

instance : OrderedMeasure Rat where
  lt_irrefl a := decide_eq_false (lt_irrefl a)
  lt_trans first second := lt_rat_iff.2 ((lt_rat_iff.1 first).trans (lt_rat_iff.1 second))
  eq_of_not_lt _ _ notBelow notAbove :=
    le_antisymm (not_lt.1 (of_decide_eq_false notAbove)) (not_lt.1 (of_decide_eq_false notBelow))

namespace Measure

variable {τ : Type} [Measure τ]

/-- A time is the latest of zero and some times. -/
structure IsLatest (latest : τ) (times : Set τ) : Prop where
  above : ∀ a ∈ times, lt latest a = false
  attained : latest = zero ∨ latest ∈ times ∧ lt zero latest = true

theorem isLatest_zero : IsLatest (zero : τ) ∅ := ⟨fun _ member => member.elim, .inl rfl⟩

variable [OrderedMeasure τ] {latest other : τ} {times : Set τ}

/-- A running maximum stays the latest when one more time is looked at. -/
theorem IsLatest.later (is : IsLatest latest times) (a : τ) :
    IsLatest (later latest a) (insert a times) := by
  cases higher : lt latest a with
  | false =>
    simp only [Measure.later, higher, Bool.false_eq_true, if_false]
    refine ⟨?_, is.attained.imp_right fun ⟨member, positive⟩ =>
      ⟨Set.mem_insert_of_mem a member, positive⟩⟩
    rintro b (rfl | member)
    · exact higher
    · exact is.above b member
  | true =>
    simp only [Measure.later, higher, if_true]
    refine ⟨?_, .inr ⟨Set.mem_insert a times, ?_⟩⟩
    · rintro b (rfl | member)
      · exact OrderedMeasure.lt_irrefl b
      · by_contra below
        have above := OrderedMeasure.lt_trans higher (Bool.eq_true_of_not_eq_false below)
        simp [is.above b member] at above
    · rcases is.attained with rfl | ⟨_, positive⟩
      · exact higher
      · exact OrderedMeasure.lt_trans positive higher

/-- The latest of a list of values is the latest of its members. -/
theorem isLatest_latest (values : List τ) : IsLatest (Measure.latest values) {a | a ∈ values} := by
  -- The running maximum is the latest of the values looked at so far.
  suffices run : ∀ {running : τ} {seen : Set τ}, IsLatest running seen →
      IsLatest (values.foldl Measure.later running) (seen ∪ {a | a ∈ values}) by
    simpa [Measure.latest] using run isLatest_zero
  induction values with
  | nil =>
    intro running seen is
    simpa using is
  | cons a rest ih =>
    intro running seen is
    have later := ih (is.later a)
    have same : insert a seen ∪ {b | b ∈ rest} = seen ∪ {b | b ∈ a :: rest} := by
      ext b
      simp only [Set.mem_union, Set.mem_insert_iff, Set.mem_ofPred_eq, List.mem_cons]
      tauto
    rwa [same] at later

theorem IsLatest.not_lt_zero (is : IsLatest latest times) : lt latest zero = false := by
  rcases is.attained with rfl | ⟨_, positive⟩
  · exact OrderedMeasure.lt_irrefl zero
  · by_contra below
    have circular := OrderedMeasure.lt_trans positive (Bool.eq_true_of_not_eq_false below)
    simp [OrderedMeasure.lt_irrefl] at circular

/-- The latest of more times is not earlier. -/
theorem IsLatest.not_lt (is : IsLatest latest times) {fewer : Set τ} (isOther : IsLatest other fewer)
    (among : fewer ⊆ times) : lt latest other = false := by
  rcases isOther.attained with rfl | ⟨member, _⟩
  · exact is.not_lt_zero
  · exact is.above other (among member)

/-- Latest times are the same where neither lies below the other. -/
theorem IsLatest.eq_of_not_lt (is : IsLatest latest times) {others : Set τ}
    (isOther : IsLatest other others) (notBelow : lt latest other = false)
    (notAbove : lt other latest = false) : latest = other := by
  rcases is.attained with rfl | ⟨_, positive⟩
  · rcases isOther.attained with rfl | ⟨_, positive⟩
    · rfl
    · cases positive.symm.trans notBelow
  · rcases isOther.attained with rfl | ⟨_, positive'⟩
    · cases positive.symm.trans notAbove
    · exact OrderedMeasure.eq_of_not_lt positive positive' notBelow notAbove

/-- The latest of some times does not depend on how they are listed. -/
theorem IsLatest.unique (is : IsLatest latest times) (isOther : IsLatest other times) :
    latest = other :=
  is.eq_of_not_lt isOther (is.not_lt isOther Set.Subset.rfl) (isOther.not_lt is Set.Subset.rfl)

end Measure

end Storyboard

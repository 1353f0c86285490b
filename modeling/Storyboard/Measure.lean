/-!
# Measures

Times, lengths and percentages are numbers of one kind `τ`, and every definition that computes
with them is stated for any `Measure τ`. Running programs use `Float`, where each operation rounds
once; `Rat` gives the same definitions without rounding. Comparisons are `Bool`-valued because a
floating-point value that is not a number is neither below, nor above, nor equal to anything.
-/

namespace Storyboard

/-- The numbers that times and lengths are measured in. -/
class Measure (τ : Type) extends Add τ, Sub τ, Mul τ, Div τ, Neg τ, OfScientific τ where
  /-- Strictly below. -/
  lt : τ → τ → Bool
  /-- Below or equal. -/
  le : τ → τ → Bool
  /-- Neither infinite nor undefined. -/
  isFinite : τ → Bool

/-- Double-precision measures: each operation rounds to the nearest value, ties to even. -/
instance : Measure Float where
  lt a b := a.lt b
  le a b := a.le b
  isFinite a := a.isFinite

/-- Exact measures. -/
instance : Measure Rat where
  lt a b := decide (a < b)
  le a b := decide (a ≤ b)
  isFinite _ := true

namespace Measure

variable {τ : Type} [Measure τ]

/-- The measure of a count. -/
def ofNat (n : Nat) : τ := OfScientific.ofScientific n false 0

/-- The measure nothing has. -/
def zero : τ := ofNat 0

instance : Inhabited τ := ⟨zero⟩

/-- Equal as numbers. -/
def eq (a b : τ) : Bool := le a b && le b a

/-- Not a number: not even equal to itself. -/
def isNaN (a : τ) : Bool := !le a a

/-- The distance from zero. -/
def abs (a : τ) : τ := if lt a zero then -a else a

/-- The value, or zero where it is not positive. -/
def nonneg (a : τ) : τ := if lt zero a then a else zero

/-- The later of a running maximum and one more value; a value that is no number never counts. -/
def later (latest a : τ) : τ := if lt latest a then a else latest

/-- The value, or the limit where it lies above it; a limit that is no number does not bind. -/
def cap (a limit : τ) : τ := if lt limit a || isNaN a then limit else a

/-- The value under an optional limit. -/
def capAt (limit : Option τ) (a : τ) : τ := limit.elim a (cap a)

/-- The latest of zero and a list of values. -/
def latest (values : List τ) : τ := values.foldl later zero

end Measure

end Storyboard

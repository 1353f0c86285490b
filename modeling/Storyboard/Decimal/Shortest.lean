import Storyboard.Decimal.Binary

/-!
# Shortest decimals

The fewest decimal digits that name a binary value: of all decimals that round to the value, those
with the fewest digits, and of these the nearest. The decimals that round to a value form an
interval around it, whose ends belong to it exactly when the mantissa is even. Two decimals of one
length can be equally near; which of the two is taken is a rule of its own.
-/

namespace Storyboard.Decimal

/-- The decimal `digits * 10 ^ exponent`. -/
structure Scaled where
  digits : Nat
  exponent : Int
  deriving DecidableEq, Repr

/-- Which of two equally near neighbours is taken. -/
inductive Tie where
  | toEven
  | up
  deriving DecidableEq

/-- Whether the lower of two equally near neighbours is taken. -/
def Tie.takesLower : Tie → Nat → Bool
  | .toEven, below => below % 2 == 0
  | .up, _ => false

/-- How many decimal digits a count is written with. -/
def digitCount (n : Nat) : Nat := (Nat.toDigits 10 n).length

/-- The power `k` with `10 ^ (k - 1) ≤ num / den < 10 ^ k`. -/
def magnitude (num den : Nat) : Int :=
  if den ≤ num then digitCount (num / den) else 1 - (digitCount ((den - 1) / num) : Int)

/-- An interval of fractions over one denominator around a value, with or without its ends. -/
structure Interval where
  low : Nat
  mid : Nat
  high : Nat
  den : Nat
  closed : Bool

namespace Interval

/-- The fractions that round to `mantissa * 2 ^ exponent`. -/
def around (fmt : Format) (mantissa : Nat) (exponent : Int) : Interval :=
  let tight := mantissa = Nat.pow 2 fmt.mantissaBits ∧ fmt.leastExponent < exponent
  let (scale, den) := scaleTwo (exponent - 2) 1 1
  { low := (4 * mantissa - if tight then 1 else 2) * scale
    mid := 4 * mantissa * scale
    high := (4 * mantissa + 2) * scale
    den
    closed := mantissa % 2 = 0 }

/-- Whether `count * unit` lies in the interval scaled by `scale`. -/
def admits (i : Interval) (scale unit count : Nat) : Bool :=
  let point := count * unit
  if i.closed then i.low * scale ≤ point && point ≤ i.high * scale
  else i.low * scale < point && point < i.high * scale

/-- The multiple of `10 ^ power` in the interval that is nearest to its middle, if there is one. -/
def onGrid (i : Interval) (tie : Tie) (power : Int) : Option Nat :=
  let (scale, unit) := scaleTen (-power) 1 i.den
  let below := i.mid * scale / unit
  match i.admits scale unit below, i.admits scale unit (below + 1) with
  | true, true =>
    match compare (2 * (i.mid * scale)) ((2 * below + 1) * unit) with
    | .lt => some below
    | .eq => some (if tie.takesLower below then below else below + 1)
    | .gt => some (below + 1)
  | true, false => some below
  | false, true => some (below + 1)
  | false, false => none

/-- The nearest point on the first grid that has one, over grids of ever smaller powers of ten. -/
def search (i : Interval) (tie : Tie) : Nat → Int → Scaled
  | 0, power => ⟨i.mid * Nat.pow 10 (-power).toNat / i.den, power⟩
  | grids + 1, power =>
    match i.onGrid tie power with
    | some digits => ⟨digits, power⟩
    | none => i.search tie grids (power - 1)

end Interval

/-- The decimal without trailing zero digits. -/
def Scaled.trimmed : Nat → Scaled → Scaled
  | 0, s => s
  | steps + 1, s =>
    if s.digits % 10 = 0 ∧ s.digits ≠ 0 then trimmed steps ⟨s.digits / 10, s.exponent + 1⟩ else s

/-- The shortest decimal that rounds to `mantissa * 2 ^ exponent`. -/
def shortest (fmt : Format) (tie : Tie) (mantissa : Nat) (exponent : Int) : Scaled :=
  if mantissa = 0 then ⟨0, 0⟩
  else
    let i := Interval.around fmt mantissa exponent
    (i.search tie 17 (magnitude i.mid i.den - 1)).trimmed 20

end Storyboard.Decimal

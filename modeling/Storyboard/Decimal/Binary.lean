/-!
# Binary floating-point values

A finite floating-point value is a whole mantissa times a power of two. `Format.value` reads the
value of a bit pattern and `Format.nearest` gives the bit pattern closest to a fraction, a tie going
to the pattern with the even mantissa. Both work in exact arithmetic on natural numbers and serve
the 64-bit and the 32-bit format alike.
-/

namespace Storyboard.Decimal

/-- A binary format, by the widths of its two number fields. -/
structure Format where
  mantissaBits : Nat
  exponentBits : Nat
  deriving DecidableEq

namespace Format

/-- The 64-bit format. -/
def double : Format := ⟨52, 11⟩

/-- The 32-bit format. -/
def single : Format := ⟨23, 8⟩

/-- The exponent of the smallest values: mantissas are whole multiples of two to this power. -/
def leastExponent (fmt : Format) : Int :=
  2 - Nat.pow 2 (fmt.exponentBits - 1) - fmt.mantissaBits

/-- The bit pattern of positive infinity. -/
def infinityBits (fmt : Format) : Nat :=
  (Nat.pow 2 fmt.exponentBits - 1) * Nat.pow 2 fmt.mantissaBits

/-- The bit that marks a negative value. -/
def signBit (fmt : Format) : Nat := Nat.pow 2 (fmt.mantissaBits + fmt.exponentBits)

end Format

/-- What a bit pattern stands for; a finite value is `mantissa * 2 ^ exponent`. -/
inductive Value where
  | notANumber
  | infinite (negative : Bool)
  | finite (negative : Bool) (mantissa : Nat) (exponent : Int)
  deriving DecidableEq

/-- The value of a bit pattern. -/
def Format.value (fmt : Format) (bits : Nat) : Value :=
  let mantissa := bits % Nat.pow 2 fmt.mantissaBits
  let exponent := bits / Nat.pow 2 fmt.mantissaBits % Nat.pow 2 fmt.exponentBits
  let negative := decide (fmt.signBit ≤ bits)
  if exponent = Nat.pow 2 fmt.exponentBits - 1 then
    if mantissa = 0 then .infinite negative else .notANumber
  else if exponent = 0 then .finite negative mantissa fmt.leastExponent
  else .finite negative (mantissa + Nat.pow 2 fmt.mantissaBits) (fmt.leastExponent + exponent - 1)

/-- The quotient of two counts rounded to a whole number, a half going to the even neighbour. -/
def roundDiv (num den : Nat) : Nat :=
  let below := num / den
  let twice := 2 * (num % den)
  if twice < den ∨ (twice = den ∧ below % 2 = 0) then below else below + 1

/-- Two to a power times a fraction, as a fraction. -/
def scaleTwo (power : Int) (num den : Nat) : Nat × Nat :=
  if 0 ≤ power then (num * Nat.pow 2 power.toNat, den) else (num, den * Nat.pow 2 (-power).toNat)

/-- Ten to a power times a fraction, as a fraction. -/
def scaleTen (power : Int) (num den : Nat) : Nat × Nat :=
  if 0 ≤ power then (num * Nat.pow 10 power.toNat, den)
  else (num, den * Nat.pow 10 (-power).toNat)

/-- The bit pattern nearest to the fraction `num / den`, a tie going to the even mantissa; what
rounds past the largest finite value is infinity. -/
def Format.nearest (fmt : Format) (num den : Nat) : Nat :=
  if num = 0 then 0
  else
    let guess : Int := (num.log2 : Int) - den.log2
    let (n, d) := scaleTwo (-guess) num den
    let top := if n < d then guess - 1 else guess
    let exponent := max (top - fmt.mantissaBits) fmt.leastExponent
    let (n, d) := scaleTwo (-exponent) num den
    min ((exponent - fmt.leastExponent).toNat * Nat.pow 2 fmt.mantissaBits + roundDiv n d)
      fmt.infinityBits

/-- The value of a double. -/
def valueOf (x : Float) : Value := Format.double.value x.toBits.toNat

/-- The double nearest to a signed fraction. -/
def nearestFloat (negative : Bool) (num den : Nat) : Float :=
  .ofBits (.ofNat (Format.double.nearest num den + if negative then Format.double.signBit else 0))

end Storyboard.Decimal

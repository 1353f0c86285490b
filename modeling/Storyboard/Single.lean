import Storyboard.Decimal.Layout

/-!
# Single-precision numbers

Volumes and shares are kept in 32 bits. A double is rounded to the nearest of them on the way in and
a single is exactly a double on the way out.
-/

namespace Storyboard

/-- A number in single precision, by its bit pattern. -/
structure Single where
  bits : Nat
  deriving DecidableEq, Inhabited

namespace Single

/-- The single nearest to a signed fraction. -/
def nearest (negative : Bool) (num den : Nat) : Single :=
  ⟨Decimal.Format.single.nearest num den + if negative then Decimal.Format.single.signBit else 0⟩

/-- The value of a single. -/
def value (s : Single) : Decimal.Value := Decimal.Format.single.value s.bits

/-- The single nearest to a value. -/
def ofValue : Decimal.Value → Single
  | .notANumber => ⟨Decimal.Format.single.infinityBits + 1⟩
  | .infinite negative =>
    ⟨Decimal.Format.single.infinityBits + if negative then Decimal.Format.single.signBit else 0⟩
  | .finite negative mantissa exponent =>
    let (num, den) := Decimal.scaleTwo exponent mantissa 1
    nearest negative num den

/-- The single nearest to a double. -/
def ofFloat (x : Float) : Single := ofValue (Decimal.valueOf x)

/-- The single nearest to a whole number. -/
def ofInt (n : Int) : Single := nearest (decide (n < 0)) n.natAbs 1

/-- The double with the same value. -/
def toFloat (s : Single) : Float :=
  match s.value with
  | .notANumber => 0.0 / 0.0
  | .infinite negative => if negative then -1.0 / 0.0 else 1.0 / 0.0
  | .finite negative mantissa exponent =>
    let (num, den) := Decimal.scaleTwo exponent mantissa 1
    Decimal.nearestFloat negative num den

/-- Whether the value is neither infinite nor undefined. -/
def isFinite (s : Single) : Bool :=
  match s.value with
  | .finite .. => true
  | _ => false

/-- The shortest decimal that names the single. -/
def documentText (s : Single) : String := Decimal.Layout.documentSingle.writeValue .single s.value

/-- The quotient of two counts, each rounded to a single first; of nothing by nothing it is zero. -/
def ratio (a b : Nat) : Single :=
  match (ofInt a).value, (ofInt b).value with
  | .finite _ m p, .finite _ n q =>
    let (num, den) := Decimal.scaleTwo (p - q) m n
    nearest false num den
  | _, _ => nearest false 0 1

/-- Full volume. -/
def one : Single := ofInt 1

end Single

end Storyboard

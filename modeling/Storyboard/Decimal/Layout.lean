import Storyboard.Decimal.Shortest

/-!
# Decimal notation

How a decimal is laid out as text. A `Layout` says which magnitudes are written in full, what
follows a whole number and which of two equally near shortest decimals is written; the three layouts
in use are those of document numbers in double and in single precision and of numbers inside
messages. `fixed` writes a value with a given number of
places, rounding the exact binary value, a half going to the even neighbour.
-/

namespace Storyboard.Decimal

/-- How a number is laid out. -/
structure Layout where
  /-- The exponents of the leading digit at which the number is written in full. -/
  inFull : Int → Bool
  /-- What is written after a whole number. -/
  wholeEnd : String
  /-- Which of two equally near shortest decimals is written. -/
  tie : Tie

namespace Layout

/-- Document numbers in double precision. -/
def document : Layout := ⟨fun e => -5 ≤ e && e ≤ 15, ".0", .toEven⟩

/-- Document numbers in single precision. -/
def documentSingle : Layout := ⟨fun e => -6 ≤ e && e ≤ 12, ".0", .toEven⟩

/-- Numbers inside messages: always in full, a whole number without a point, a tie going up. -/
def message : Layout := ⟨fun _ => true, "", .up⟩

/-- A decimal in full: `1200`, `12.5`, `0.00125`. -/
def writeInFull (l : Layout) (s : Scaled) : String :=
  let digits := Nat.toDigits 10 s.digits
  if 0 ≤ s.exponent then
    String.ofList (digits ++ List.replicate s.exponent.toNat '0') ++ l.wholeEnd
  else
    let places := (-s.exponent).toNat
    let padded := List.replicate (places + 1 - digits.length) '0' ++ digits
    let whole := padded.length - places
    String.ofList (padded.take whole ++ '.' :: padded.drop whole)

/-- A decimal by its leading digit and an exponent: `1.25e-7`, `1e+16`. -/
def writeScientific (s : Scaled) (exponent : Int) : String :=
  let mantissa := match Nat.toDigits 10 s.digits with
    | lead :: second :: rest => lead :: '.' :: second :: rest
    | short => short
  let sign := if exponent < 0 then '-' else '+'
  String.ofList (mantissa ++ 'e' :: sign :: Nat.toDigits 10 exponent.natAbs)

/-- A decimal in the layout's notation. -/
def write (l : Layout) (s : Scaled) : String :=
  let exponent := (digitCount s.digits : Int) - 1 + s.exponent
  if l.inFull exponent then l.writeInFull s else writeScientific s exponent

/-- A value of a binary format by its shortest decimal. -/
def writeValue (l : Layout) (fmt : Format) : Value → String
  | .notANumber => "NaN"
  | .infinite negative => if negative then "-inf" else "inf"
  | .finite negative mantissa exponent =>
    (if negative then "-" else "") ++ l.write (shortest fmt l.tie mantissa exponent)

end Layout

/-- A number inside a message. -/
def text (x : Float) : String := Layout.message.writeValue .double (valueOf x)

/-- A finite number in a document. -/
def documentText (x : Float) : String := Layout.document.writeValue .double (valueOf x)

/-- A number with a fixed count of places. -/
def fixed (places : Nat) (x : Float) : String :=
  match valueOf x with
  | .notANumber => "NaN"
  | .infinite negative => if negative then "-inf" else "inf"
  | .finite negative mantissa exponent =>
    let (num, den) := scaleTwo exponent mantissa 1
    let digits := roundDiv (num * Nat.pow 10 places) den
    (if negative then "-" else "") ++ Layout.message.writeInFull ⟨digits, -places⟩

end Storyboard.Decimal

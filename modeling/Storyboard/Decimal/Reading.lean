import Storyboard.Decimal.Binary

/-!
# Reading decimals

Numbers typed by people: an optional sign, digits with an optional point, an optional exponent, or
one of the words for infinity and "not a number". The result is the double nearest to the written
decimal, however many digits it has.
-/

namespace Storyboard.Decimal

/-- Whether a character is one of the ten ASCII digits. -/
def isDigit (c : Char) : Bool := '0' ≤ c && c ≤ '9'

/-- The value of a digit. -/
def digitValue (c : Char) : Nat := c.toNat - '0'.toNat

/-- The count that a run of digits writes. -/
def ofDigits (cs : List Char) : Nat := cs.foldl (fun n c => n * 10 + digitValue c) 0

/-- Leading digits and what follows them. -/
def spanDigits (cs : List Char) : List Char × List Char := (cs.takeWhile isDigit, cs.dropWhile isDigit)

/-- An optional sign, and whether it is a minus. -/
def readSign : List Char → Bool × List Char
  | '-' :: rest => (true, rest)
  | '+' :: rest => (false, rest)
  | cs => (false, cs)

/-- An exponent that ends the text; an absent one is zero. -/
def readExponent : List Char → Option Int
  | [] => some 0
  | c :: rest =>
    if c = 'e' ∨ c = 'E' then
      let (negative, digits) := readSign rest
      if digits.isEmpty || !digits.all isDigit then none
      else some (if negative then -(ofDigits digits) else ofDigits digits)
    else none

/-- The double nearest to `significand * 10 ^ exponent`. Exponents far outside the range of doubles
are cut short, where the result is infinite or zero whatever they are. -/
def ofScaled (negative : Bool) (significand : Nat) (exponent : Int) : Float :=
  let size := (significand.log2 : Int) / 3 + 1
  let exponent := max (min exponent 400) (-400 - size)
  let (num, den) := scaleTen exponent significand 1
  nearestFloat negative num den

/-- An unsigned decimal: digits, a point, digits, an exponent, with a digit before or after the
point. -/
def readUnsigned (negative : Bool) (cs : List Char) : Option Float :=
  let (whole, rest) := spanDigits cs
  let (places, rest) := match rest with
    | '.' :: rest => spanDigits rest
    | rest => ([], rest)
  if whole.isEmpty && places.isEmpty then none
  else
    (readExponent rest).map fun exponent =>
      ofScaled negative (ofDigits (whole ++ places)) (exponent - places.length)

/-- A text in lower-case ASCII letters. -/
def asciiLower (cs : List Char) : List Char := cs.map Char.toLower

/-- The number that a whole text writes. -/
def read? (s : String) : Option Float :=
  let (negative, rest) := readSign s.toList
  let word := String.ofList (asciiLower rest)
  if word == "inf" || word == "infinity" then
    some (.ofBits (.ofNat (Format.double.infinityBits + if negative then Format.double.signBit else 0)))
  else if word == "nan" then some (0.0 / 0.0)
  else readUnsigned negative rest

end Storyboard.Decimal

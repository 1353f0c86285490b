import Storyboard.Json
import Storyboard.Decimal.Reading

/-!
# Reading documents

The text form of untyped values. Numbers are read the way documents have always been read here: the
digits as one 64-bit count, scaled once by a power of ten. That is exact for numbers with few
digits and may miss the nearest double by a last bit for numbers with many. Values may be nested
127 deep, and of two fields with one name the later counts.
-/

namespace Storyboard.Json

/-- The largest 64-bit count. -/
def countLimit : Nat := Nat.pow 2 64 - 1

/-- The double nearest to a power of ten. -/
def powerOfTen (exponent : Nat) : Float := Decimal.nearestFloat false (Nat.pow 10 exponent) 1

/-- Repeated division by the largest power of ten, for exponents below the range of one division. -/
def divideDown : Nat → Float → Nat → Float
  | 0, x, _ => x
  | steps + 1, x, exponent =>
    if exponent ≤ 308 then x / powerOfTen exponent
    else if x == 0.0 then x
    else divideDown steps (x / powerOfTen 308) (exponent - 308)

/-- A 64-bit count scaled by a power of ten; `none` past the range of doubles. -/
def scaled (count : Nat) (exponent : Int) : Option Float :=
  let x := (UInt64.ofNat count).toFloat
  if exponent < 0 then some (divideDown 4 x exponent.natAbs)
  else if count = 0 then some 0.0
  else if 308 < exponent then none
  else
    let y := x * powerOfTen exponent.toNat
    if y.isFinite then some y else none

/-- Takes digits into a count as long as it fits 64 bits; also gives how many digits were taken and
those that were not. -/
def takeDigits (count taken : Nat) : List Char → Nat × Nat × List Char
  | [] => (count, taken, [])
  | d :: rest =>
    let next := count * 10 + Decimal.digitValue d
    if next ≤ countLimit then takeDigits next (taken + 1) rest else (count, taken, d :: rest)

/-- An exponent after its letter, and the rest of the text. -/
def readExponent (cs : List Char) : Option (Int × List Char) :=
  let (negative, cs) := Decimal.readSign cs
  let (digits, rest) := Decimal.spanDigits cs
  if digits.isEmpty then none
  else
    let n : Int := Decimal.ofDigits digits
    some (if negative then -n else n, rest)

/-- A double from its digits before and after the point and its exponent. -/
def readDouble (negative : Bool) (whole places : List Char) (exponent : Int) : Option Float :=
  let (count, _, skipped) := takeDigits 0 0 whole
  let (count, taken, _) := takeDigits count 0 places
  (scaled count (exponent + skipped.length - taken)).map fun x => if negative then -x else x

/-- A number without its sign: a whole number where it has neither point nor exponent and fits 64
bits, else a double. -/
def readMagnitude (negative : Bool) (cs : List Char) : Option (Json × List Char) := do
  let (whole, rest) := Decimal.spanDigits cs
  match whole with
  | [] | '0' :: _ :: _ => none
  | _ =>
    let (places, rest, pointed) ← match rest with
      | '.' :: rest =>
        let (places, rest) := Decimal.spanDigits rest
        if places.isEmpty then none else some (places, rest, true)
      | rest => some ([], rest, false)
    let (exponent, rest, powered) ← match rest with
      | 'e' :: rest | 'E' :: rest => (readExponent rest).map fun (e, rest) => (e, rest, true)
      | rest => some (0, rest, false)
    let n := Decimal.ofDigits whole
    if !pointed && !powered && !negative && n ≤ countLimit then
      some (.int n, rest)
    else if !pointed && !powered && negative && 0 < n && n ≤ Nat.pow 2 63 then
      some (.int (-n), rest)
    else
      (readDouble negative whole places exponent).map fun x => (.float x, rest)

/-- A number. -/
def readNumber : List Char → Option (Json × List Char)
  | '-' :: rest => readMagnitude true rest
  | cs => readMagnitude false cs

/-- The value of a hexadecimal digit. -/
def hexValue (c : Char) : Option Nat :=
  if Decimal.isDigit c then some (Decimal.digitValue c)
  else if 'a' ≤ c ∧ c ≤ 'f' then some (c.toNat - 'a'.toNat + 10)
  else if 'A' ≤ c ∧ c ≤ 'F' then some (c.toNat - 'A'.toNat + 10)
  else none

/-- Four hexadecimal digits. -/
def hexFour (a b c d : Char) : Option Nat := do
  return (((← hexValue a) * 16 + (← hexValue b)) * 16 + (← hexValue c)) * 16 + (← hexValue d)

/-- The character of a one-letter escape. -/
def escaped : Char → Option Char
  | '"' => some '"'
  | '\\' => some '\\'
  | '/' => some '/'
  | 'b' => some '\x08'
  | 'f' => some '\x0c'
  | 'n' => some '\n'
  | 'r' => some '\r'
  | 't' => some '\t'
  | _ => none

/-- A text after its opening quote. Characters above the first plane may be escaped as two halves;
a half alone is refused, as are unescaped control characters. -/
def readText (read : List Char) : List Char → Option (String × List Char)
  | [] => none
  | '"' :: rest => some (String.ofList read.reverse, rest)
  | '\\' :: 'u' :: a :: b :: c :: d :: '\\' :: 'u' :: e :: f :: g :: h :: rest =>
    match hexFour a b c d with
    | none => none
    | some n =>
      if 0xD800 ≤ n ∧ n < 0xDC00 then
        match hexFour e f g h with
        | none => none
        | some m =>
          if 0xDC00 ≤ m ∧ m < 0xE000 then
            readText (Char.ofNat (0x10000 + (n - 0xD800) * 0x400 + (m - 0xDC00)) :: read) rest
          else none
      else if 0xDC00 ≤ n ∧ n < 0xE000 then none
      else readText (Char.ofNat n :: read) ('\\' :: 'u' :: e :: f :: g :: h :: rest)
  | '\\' :: 'u' :: a :: b :: c :: d :: rest =>
    match hexFour a b c d with
    | none => none
    | some n => if 0xD800 ≤ n ∧ n < 0xE000 then none else readText (Char.ofNat n :: read) rest
  | '\\' :: c :: rest =>
    match escaped c with
    | none => none
    | some x => readText (x :: read) rest
  | c :: rest => if c.toNat < 0x20 then none else readText (c :: read) rest
termination_by cs => cs.length

/-- The characters after spaces and line ends. -/
def skipSpace (cs : List Char) : List Char :=
  cs.dropWhile fun c => c == ' ' || c == '\n' || c == '\t' || c == '\r'

/-- Removes a word from the front of a text. -/
def dropWord (word : List Char) (cs : List Char) : Option (List Char) :=
  if word.isPrefixOf cs then some (cs.drop word.length) else none

mutual

/-- A value with at most `depth` levels of nesting. -/
def readValue : Nat → Nat → List Char → Option (Json × List Char)
  | 0, _, _ => none
  | fuel + 1, depth, cs =>
    match skipSpace cs with
    | '"' :: rest => (readText [] rest).map fun (s, rest) => (.str s, rest)
    | '[' :: rest =>
      match depth with
      | 0 => none
      | depth + 1 =>
        match skipSpace rest with
        | ']' :: rest => some (.arr [], rest)
        | rest => (readItems fuel depth rest).map fun (items, rest) => (.arr items, rest)
    | '{' :: rest =>
      match depth with
      | 0 => none
      | depth + 1 =>
        match skipSpace rest with
        | '}' :: rest => some (.obj [], rest)
        | rest =>
          (readFields fuel depth rest).map fun (fields, rest) => (.obj (Keyed.ofList fields), rest)
    | 'n' :: rest => (dropWord ['u', 'l', 'l'] rest).map fun rest => (.null, rest)
    | 't' :: rest => (dropWord ['r', 'u', 'e'] rest).map fun rest => (.bool true, rest)
    | 'f' :: rest => (dropWord ['a', 'l', 's', 'e'] rest).map fun rest => (.bool false, rest)
    | rest => readNumber rest

/-- The items of a list up to its closing bracket; there is at least one. -/
def readItems : Nat → Nat → List Char → Option (List Json × List Char)
  | 0, _, _ => none
  | fuel + 1, depth, cs =>
    match readValue fuel depth cs with
    | none => none
    | some (item, rest) =>
      match skipSpace rest with
      | ',' :: rest => (readItems fuel depth rest).map fun (items, rest) => (item :: items, rest)
      | ']' :: rest => some ([item], rest)
      | _ => none

/-- The fields of a dictionary up to its closing brace; there is at least one. -/
def readFields : Nat → Nat → List Char → Option (List (String × Json) × List Char)
  | 0, _, _ => none
  | fuel + 1, depth, cs =>
    match skipSpace cs with
    | '"' :: rest =>
      match readText [] rest with
      | none => none
      | some (key, rest) =>
        match skipSpace rest with
        | ':' :: rest =>
          match readValue fuel depth rest with
          | none => none
          | some (item, rest) =>
            match skipSpace rest with
            | ',' :: rest =>
              (readFields fuel depth rest).map fun (fields, rest) => ((key, item) :: fields, rest)
            | '}' :: rest => some ([(key, item)], rest)
            | _ => none
        | _ => none
    | _ => none

end

/-- The value that a whole text writes. -/
def parse (text : String) : Option Json :=
  let cs := text.toList
  match readValue (2 * cs.length + 2) 127 cs with
  | some (value, rest) => if (skipSpace rest).isEmpty then some value else none
  | none => none

end Storyboard.Json

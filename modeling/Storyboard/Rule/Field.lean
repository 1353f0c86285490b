import Storyboard.Project.Document
import Storyboard.Decimal.Layout
import Storyboard.Decimal.Reading

/-!
# Fields and comparisons

Rules see an element as a document and name its fields by dotted paths. Values are compared after
being made comparable: texts and truth values stand for numbers, lists for the texts of their items,
and nothing equals only what is missing. A missing field is `none` throughout.
-/

namespace Storyboard

open Json

/-- The document by which rules see an element: the element itself with its text, its end, and the
name, kind and role of its track. -/
def Project.Element.view (track : Project.Track Float) (e : Project.Element Float) : Json :=
  .obj <| Keyed.ofList <|
    e.fields
    ++ opt "textContent" .str e.content.text?
    ++ [("trackRole", .str track.role.name), ("trackType", .str track.kind.name),
      ("trackName", .str track.name), ("endTime", number e.finish)]

namespace Json

/-- The place in a list that a step of a path names: digits after an optional plus. -/
def placeOf? (step : String) : Option Nat :=
  let digits := match step.toList with
    | '+' :: rest => rest
    | cs => cs
  if digits.isEmpty || !digits.all Decimal.isDigit then none else some (Decimal.ofDigits digits)

/-- One step of a path: a field of a dictionary, an item or the length of a list, or the length of
a text. -/
def step (step : String) : Json → Option Json
  | .obj fields => fields.lookup step
  | .arr items =>
    if step == "length" then some (nat items.length)
    else (placeOf? step).bind fun place => items[place]?
  | .str s => if step == "length" then some (nat s.length) else none
  | _ => none

/-- The value at the end of a dotted path. -/
def resolve (root : Json) (path : String) : Option Json :=
  ((Text.splitAll '.' path.toList).map String.ofList).foldlM (fun v s => v.step s) root

/-- The exact whole number that a double is, if it is one. -/
def wholeOf? (x : Float) : Option Int :=
  match Decimal.valueOf x with
  | .finite negative mantissa exponent =>
    let (num, den) := Decimal.scaleTwo exponent mantissa 1
    if num % den = 0 then some (if negative then -(num / den : Nat) else (num / den : Nat)) else none
  | _ => none

/-- A double as text: whole numbers below two to the 63rd digit by digit, others shortest. -/
def floatText (x : Float) : String :=
  match wholeOf? x with
  | some n => if n.natAbs < Nat.pow 2 63 then toString n else Decimal.text x
  | none =>
    if x.isFinite || x.isNaN then Decimal.text x else if 0.0 < x then "Infinity" else "-Infinity"

/-- The number that a text stands for: a blank one is zero, and words other than those for infinity
are no number. -/
def numberOfText (s : String) : Float :=
  match Text.trim s with
  | "" => 0.0
  | "Infinity" | "+Infinity" => 1.0 / 0.0
  | "-Infinity" => -1.0 / 0.0
  | s =>
    if s.toList.any fun c => c.isAlpha && c != 'e' && c != 'E' then 0.0 / 0.0
    else (Decimal.read? s).getD (0.0 / 0.0)

mutual

/-- The text of a value. -/
def textOf : Json → String
  | .null => "null"
  | .bool b => if b then "true" else "false"
  | .int n => toString n
  | .float x => floatText x
  | .single x => floatText x.toFloat
  | .str s => s
  | .arr items => ",".intercalate (textsOf items)
  | .obj _ => "[object Object]"

/-- The texts of the items of a list; nothing has an empty text here. -/
def textsOf : List Json → List String
  | [] => []
  | .null :: rest => "" :: textsOf rest
  | item :: rest => textOf item :: textsOf rest

end

/-- The number of a value. -/
def numberOf : Json → Float
  | .null => 0.0
  | .bool b => if b then 1.0 else 0.0
  | .str s => numberOfText s
  | .arr items => numberOfText (textOf (.arr items))
  | .obj _ => 0.0 / 0.0
  | v => (asFloat v).getD (0.0 / 0.0)

/-- The text of a field, missing or not. -/
def fieldText (field : Option Json) : String := field.elim "undefined" textOf

/-- The number of a field, missing or not. -/
def fieldNumber (field : Option Json) : Float := field.elim (0.0 / 0.0) numberOf

/-- The kinds of values that comparisons tell apart. -/
inductive Shape where
  | null
  | bool
  | number
  | text
  | composite
  deriving DecidableEq

/-- The shape of a value. -/
def shape : Json → Shape
  | .null => .null
  | .bool _ => .bool
  | .int _ | .float _ | .single _ => .number
  | .str _ => .text
  | .arr _ | .obj _ => .composite

/-- Equality of texts and numbers; a text stands for a number beside a number. -/
def plainEquals (a b : Json) : Bool :=
  match a, b with
  | .str s, .str t => s == t
  | _, _ => numberOf a == numberOf b

/-- Equality of two present values: nothing equals nothing, a structure equals a primitive value as
its text does, and primitive values of different shapes are equal as numbers. -/
def looseEquals (a b : Json) : Bool :=
  match shape a, shape b with
  | .null, other | other, .null => other == .null
  | .composite, .composite => false
  | .composite, .bool => numberOfText (textOf a) == numberOf b
  | .bool, .composite => numberOf a == numberOfText (textOf b)
  | .composite, _ => plainEquals (.str (textOf a)) b
  | _, .composite => plainEquals a (.str (textOf b))
  | _, _ => plainEquals a b

/-- Equality of a field with a value; a missing field equals nothing only. -/
def fieldEquals (field : Option Json) (expected : Json) : Bool :=
  match field with
  | none => shape expected == .null
  | some v => looseEquals v expected

/-- Whether a field contains a value: as an item of a list, else as a part of its text. -/
def fieldContains (field : Option Json) (expected : Json) : Bool :=
  match field with
  | none | some .null => false
  | some (.arr items) => items.any fun item => looseEquals item expected
  | some v => Text.contains (textOf v) (textOf expected)

/-- Whether a value counts as yes. -/
def isTruthy : Json → Bool
  | .null => false
  | .bool b => b
  | .str s => s != ""
  | .arr _ | .obj _ => true
  | v =>
    let x := numberOf v
    !(x == 0.0) && !x.isNaN

end Json

end Storyboard
